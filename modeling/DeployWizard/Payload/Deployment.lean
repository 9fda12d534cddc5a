import DeployWizard.Deployment
import DeployWizard.Json.Record

set_option autoImplicit false

namespace DeployWizard.Payload
open Json

def member {α : Type} (name : String) (write : α → Value) (v : Option α) : List (String × Value) :=
  match v with
  | none => []
  | some a => [(name, write a)]

def ofPort (p : UInt16) : Value :=
  Value.ofNat p.toNat

def ofComponent (c : Component) : Value :=
  .text c.key

def asComponentIn (sp : Spelling) (v : Value) : Option Component :=
  (sp.name? v).bind Component.ofKey?

def asComponent (v : Value) : Option Component :=
  asComponentIn .strict v

def ofAuth (a : Auth) : Value :=
  .object ([("user", .text a.user)] ++ member "password" .text a.password ++
    [("port", ofPort a.port)])

def asAuth (v : Value) : Option Auth :=
  match Record.fields [⟨"user", [], false⟩, ⟨"password", [], true⟩, ⟨"port", [], false⟩]
      .ignored v with
  | some [user, password, port] => do
    some ⟨← need asText user, ← maybe asText password, ← need asPort port⟩
  | _ => none

def ofServer (address : String) : Value :=
  .object [("ip", .text address)]

def asServer (v : Value) : Option String :=
  match Record.fields [⟨"ip", [], false⟩] .ignored v with
  | some [address] => need asText address
  | _ => none

def ofZone (z : ZonePlan) : Value :=
  .object ([("name", .text z.name), ("servers", .array (z.servers.map ofServer))] ++
    member "rootservice" .text z.coordinator)

def asZone (v : Value) : Option ZonePlan :=
  match Record.fields
      [⟨"name", [], false⟩, ⟨"servers", [], true⟩, ⟨"rootservice", [], true⟩] .ignored v with
  | some [name, servers, coordinator] => do
    some ⟨← need asText name, ← orElse [] (asList asServer) servers, ← maybe asText coordinator⟩
  | _ => none

def ofDatabase (d : Database) : Value :=
  .object ([("appname", .text d.appName), ("version", .text d.version)] ++
    member "mysql_port" ofPort d.sqlPort ++ member "rpc_port" ofPort d.rpcPort ++
    [("topology", .array (d.zones.map ofZone))])

def asDatabase (v : Value) : Option Database :=
  match Record.fields
      [⟨"appname", [], false⟩, ⟨"version", [], true⟩, ⟨"mysql_port", [], true⟩,
        ⟨"rpc_port", [], true⟩, ⟨"topology", [], true⟩] .ignored v with
  | some [appName, version, sqlPort, rpcPort, zones] => do
    some ⟨← need asText appName, ← orElse "" asText version, ← maybe asPort sqlPort,
      ← maybe asPort rpcPort, ← orElse [] (asList asZone) zones⟩
  | _ => none

def versionAndServers (version : String) (servers : List String) : List (String × Value) :=
  [("version", .text version), ("servers", .texts servers)]

def versionSlot : Slot := ⟨"version", [], true⟩

def serversSlot : Slot := ⟨"servers", [], true⟩

def ofProxy (p : Proxy) : Value :=
  .object (versionAndServers p.version p.servers ++ member "listen_port" ofPort p.listenPort ++
    member "prometheus_listen_port" ofPort p.metricsPort)

def asProxy (v : Value) : Option Proxy :=
  match Record.fields
      [versionSlot, serversSlot, ⟨"listen_port", [], true⟩, ⟨"prometheus_listen_port", [], true⟩]
      .ignored v with
  | some [version, servers, listenPort, metricsPort] => do
    some ⟨← orElse "" asText version, ← orElse [] asTexts servers, ← maybe asPort listenPort,
      ← maybe asPort metricsPort⟩
  | _ => none

def ofAgent (a : Agent) : Value :=
  .object (versionAndServers a.version a.servers ++
    member "monagent_http_port" ofPort a.monitorPort ++
    member "mgragent_http_port" ofPort a.managerPort)

def asAgent (v : Value) : Option Agent :=
  match Record.fields
      [versionSlot, serversSlot, ⟨"monagent_http_port", [], true⟩, ⟨"mgragent_http_port", [], true⟩]
      .ignored v with
  | some [version, servers, monitorPort, managerPort] => do
    some ⟨← orElse "" asText version, ← orElse [] asTexts servers, ← maybe asPort monitorPort,
      ← maybe asPort managerPort⟩
  | _ => none

def ofConsole (c : Console) : Value :=
  .object (versionAndServers c.version c.servers ++ member "port" ofPort c.port)

def asConsole (v : Value) : Option Console :=
  match Record.fields [versionSlot, serversSlot, ⟨"port", [], true⟩] .ignored v with
  | some [version, servers, port] => do
    some ⟨← orElse "" asText version, ← orElse [] asTexts servers, ← maybe asPort port⟩
  | _ => none

def ofConfigServer (c : ConfigServer) : Value :=
  .object (versionAndServers c.version c.servers ++ member "listen_port" ofPort c.listenPort)

def asConfigServer (v : Value) : Option ConfigServer :=
  match Record.fields [versionSlot, serversSlot, ⟨"listen_port", [], true⟩] .ignored v with
  | some [version, servers, listenPort] => do
    some ⟨← orElse "" asText version, ← orElse [] asTexts servers, ← maybe asPort listenPort⟩
  | _ => none

def ofComponents (c : Components) : Value :=
  .object ([("oceanbase", ofDatabase c.database)] ++ member "obproxy" ofProxy c.proxy ++
    member "obagent" ofAgent c.agent ++ member "ocpexpress" ofConsole c.console ++
    member "obconfigserver" ofConfigServer c.configServer)

def asComponents (v : Value) : Option Components :=
  match Record.fields
      [⟨"oceanbase", [], true⟩, ⟨"obproxy", [], true⟩, ⟨"obagent", [], true⟩,
        ⟨"ocpexpress", [], true⟩, ⟨"obconfigserver", [], true⟩] .ignored v with
  | some [database, proxy, agent, console, configServer] => do
    some ⟨← orElse {} asDatabase database, ← maybe asProxy proxy, ← maybe asAgent agent,
      ← maybe asConsole console, ← maybe asConfigServer configServer⟩
  | _ => none

def ofDeployment (d : Deployment) : Value :=
  .object (member "auth" ofAuth d.auth ++ [("components", ofComponents d.components)] ++
    member "home_path" .text d.homePath)

def asDeployment (v : Value) : Option Deployment :=
  match Record.fields
      [⟨"auth", [], true⟩, ⟨"components", [], false⟩, ⟨"home_path", [], true⟩] .ignored v with
  | some [auth, components, homePath] => do
    some ⟨← maybe asAuth auth, ← need asComponents components, ← maybe asText homePath⟩
  | _ => none

def ofSelection (s : Selection) : Value :=
  .object [("selected", .array (s.selected.map ofComponent)), ("low_version", .bool s.lowVersion)]

def asSelection (v : Value) : Option Selection :=
  match Record.fields [⟨"selected", [], true⟩, ⟨"low_version", [], true⟩] .ignored v with
  | some [selected, lowVersion] => do
    some ⟨← orElse [] (asList asComponent) selected, ← orElse false asBool lowVersion⟩
  | _ => none

end DeployWizard.Payload
