import DeployWizard.Deployment
import DeployWizard.Payload.Install
import DeployWizard.Toml.Reader

set_option autoImplicit false

/-!
The wizard file holds everything that an operator would enter in the wizard: the deployer service,
the settings of the deployment, the zones and the nodes of the components. Every setting has a
default, and a member that is no setting is refused.
-/
namespace DeployWizard

structure ServiceSettings where
  baseUrl : String := "http://127.0.0.1:8680"
  /-- In seconds. -/
  timeout : UInt64 := 30
  /-- In milliseconds. -/
  poll : UInt64 := 1000
  deriving DecidableEq

structure DeploymentSettings where
  appName : String := "myoceanbase"
  version : String := ""
  sqlPort : Option UInt16 := none
  rpcPort : Option UInt16 := none
  components : List Component := []
  lowVersion : Bool := false
  /-- Without the name of the deployment; none to have it follow the user. -/
  homePath : Option String := none
  /-- Without a user, the one of the deployer service is taken. -/
  auth : Auth := {}
  deriving DecidableEq

/-- The settings of a component. Ports that it does not have are ignored. -/
structure NodeSettings where
  version : String := ""
  servers : List String := []
  listenPort : Option UInt16 := none
  metricsPort : Option UInt16 := none
  monitorPort : Option UInt16 := none
  managerPort : Option UInt16 := none
  port : Option UInt16 := none
  deriving DecidableEq

structure WizardFile where
  service : ServiceSettings := {}
  deployment : DeploymentSettings := {}
  zones : List ZonePlan := []
  proxy : Option NodeSettings := none
  agent : Option NodeSettings := none
  console : Option NodeSettings := none
  configServer : Option NodeSettings := none
  deriving DecidableEq

namespace WizardFile
open Json Payload

def selection (f : WizardFile) : Selection :=
  ⟨f.deployment.components, f.deployment.lowVersion⟩

/-- The draft that the wizard starts from: names, versions and ports. Zones, node lists and the
deploy user come in through the node form; only the config server has its nodes here. -/
def draft (f : WizardFile) : Deployment where
  components :=
    { database :=
        { appName := f.deployment.appName
          version := f.deployment.version
          sqlPort := f.deployment.sqlPort
          rpcPort := f.deployment.rpcPort }
      proxy := f.proxy.map fun s =>
        { version := s.version, listenPort := s.listenPort, metricsPort := s.metricsPort }
      agent := f.agent.map fun s =>
        { version := s.version, monitorPort := s.monitorPort, managerPort := s.managerPort }
      console := f.console.map fun s => { version := s.version, port := s.port }
      configServer := f.configServer.map fun s =>
        { version := s.version, servers := s.servers, listenPort := s.listenPort } }

/-- The fields of a section; each may be missing. -/
def sectionFields (sp : Spelling) (names : List String) (v : Value) :
    Option (List (Option Value)) :=
  Record.fieldsIn sp (names.map fun name => ⟨name, [], true⟩) .refused v

def asService (sp : Spelling) (v : Value) : Option ServiceSettings :=
  match sectionFields sp ["base_url", "timeout_secs", "poll_interval_ms"] v with
  | some [baseUrl, timeout, poll] => do
    let d : ServiceSettings := {}
    some ⟨← orElse d.baseUrl asText baseUrl, ← orElse d.timeout asUInt64 timeout,
      ← orElse d.poll asUInt64 poll⟩
  | _ => none

def asLogin (sp : Spelling) (v : Value) : Option Auth :=
  match sectionFields sp ["user", "password", "port"] v with
  | some [user, password, port] => do
    let d : Auth := {}
    some ⟨← orElse d.user asText user, ← maybe asText password, ← orElse d.port asPort port⟩
  | _ => none

def asSettings (sp : Spelling) (v : Value) : Option DeploymentSettings :=
  match sectionFields sp
      ["appname", "version", "mysql_port", "rpc_port", "components", "low_version", "home_path",
        "auth"] v with
  | some [appName, version, sqlPort, rpcPort, components, lowVersion, homePath, auth] => do
    let d : DeploymentSettings := {}
    some ⟨← orElse d.appName asText appName, ← orElse d.version asText version,
      ← maybe asPort sqlPort, ← maybe asPort rpcPort,
      ← orElse d.components (asList (asComponentIn sp)) components,
      ← orElse d.lowVersion asBool lowVersion, ← maybe asText homePath,
      ← orElse d.auth (asLogin sp) auth⟩
  | _ => none

def asZoneSettings (sp : Spelling) (v : Value) : Option ZonePlan :=
  match sectionFields sp ["name", "servers", "rootservice"] v with
  | some [name, servers, coordinator] => do
    some ⟨← orElse "" asText name, ← orElse [] asTexts servers, ← maybe asText coordinator⟩
  | _ => none

def asNodes (sp : Spelling) (v : Value) : Option NodeSettings :=
  match sectionFields sp
      ["version", "servers", "listen_port", "prometheus_listen_port", "monagent_http_port",
        "mgragent_http_port", "port"] v with
  | some [version, servers, listenPort, metricsPort, monitorPort, managerPort, port] => do
    some ⟨← orElse "" asText version, ← orElse [] asTexts servers, ← maybe asPort listenPort,
      ← maybe asPort metricsPort, ← maybe asPort monitorPort, ← maybe asPort managerPort,
      ← maybe asPort port⟩
  | _ => none

def ofValue? (sp : Spelling) (v : Value) : Option WizardFile :=
  match sectionFields sp
      ["server", "deployment", "zones", "obproxy", "obagent", "ocpexpress", "obconfigserver"] v with
  | some [service, deployment, zones, proxy, agent, console, configServer] => do
    some ⟨← orElse {} (asService sp) service, ← orElse {} (asSettings sp) deployment,
      ← orElse [] (asList (asZoneSettings sp)) zones, ← maybe (asNodes sp) proxy,
      ← maybe (asNodes sp) agent, ← maybe (asNodes sp) console,
      ← maybe (asNodes sp) configServer⟩
  | _ => none

def parse? (text : String) : Option WizardFile :=
  (Toml.read? text).bind (ofValue? Toml.spelling)

end WizardFile

end DeployWizard
