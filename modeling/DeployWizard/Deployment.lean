import DeployWizard.Zone

set_option autoImplicit false

namespace DeployWizard

inductive Component where
  | proxy
  | agent
  | console
  | configServer
  deriving DecidableEq

namespace Component

def key : Component → String
  | .proxy => "obproxy"
  | .agent => "obagent"
  | .console => "ocp-express"
  | .configServer => "obconfigserver"

def displayName : Component → String
  | .proxy => "OBProxy"
  | .agent => "OBAgent"
  | .console => "OCP Express"
  | .configServer => "OB ConfigServer"

def ofKey? (s : String) : Option Component :=
  [proxy, agent, console, configServer].find? (·.key = s)

theorem ofKey?_key (c : Component) : ofKey? c.key = some c := by
  cases c <;> decide +kernel

end Component

def defaultSshPort : UInt16 := 22

/-- The credentials of the deploy user; without a password the login is by key. -/
structure Auth where
  user : String := ""
  password : Option String := none
  port : UInt16 := defaultSshPort
  deriving DecidableEq

structure Database where
  appName : String := ""
  version : String := ""
  sqlPort : Option UInt16 := none
  rpcPort : Option UInt16 := none
  zones : List ZonePlan := []
  deriving DecidableEq

structure Proxy where
  version : String := ""
  servers : List String := []
  listenPort : Option UInt16 := none
  metricsPort : Option UInt16 := none
  deriving DecidableEq

structure Agent where
  version : String := ""
  servers : List String := []
  monitorPort : Option UInt16 := none
  managerPort : Option UInt16 := none
  deriving DecidableEq

structure Console where
  version : String := ""
  servers : List String := []
  port : Option UInt16 := none
  deriving DecidableEq

structure ConfigServer where
  version : String := ""
  servers : List String := []
  listenPort : Option UInt16 := none
  deriving DecidableEq

structure Components where
  database : Database := {}
  proxy : Option Proxy := none
  agent : Option Agent := none
  console : Option Console := none
  configServer : Option ConfigServer := none
  deriving DecidableEq

structure Deployment where
  auth : Option Auth := none
  components : Components := {}
  /-- Ends in the name of the deployment. -/
  homePath : Option String := none
  deriving DecidableEq

def Deployment.name (d : Deployment) : String :=
  d.components.database.appName

structure Selection where
  selected : List Component := []
  /-- The version of the database is older than the console. -/
  lowVersion : Bool := false
  deriving DecidableEq

def Selection.enabled (s : Selection) (c : Component) : Bool :=
  !(c = .console && s.lowVersion) && c ∈ s.selected

end DeployWizard
