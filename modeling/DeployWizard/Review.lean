import DeployWizard.Deployment

set_option autoImplicit false

namespace DeployWizard

structure ComponentSummary where
  /-- None for the database itself. -/
  kind : Option Component
  name : String
  version : String
  servers : List String
  deriving DecidableEq

structure Review where
  appName : String
  user : Option String
  homePath : Option String
  dataDir : Option String
  sqlPort : Option UInt16
  rpcPort : Option UInt16
  components : List ComponentSummary
  zones : List ZonePlan
  deriving DecidableEq

namespace Review

def summary (kind : Component) (version : String) (servers : List String) : ComponentSummary :=
  ⟨some kind, kind.displayName, version, servers⟩

def ofDeployment (d : Deployment) : Review :=
  let c := d.components
  { appName := c.database.appName
    user := d.auth.map (·.user)
    homePath := d.homePath
    dataDir := d.homePath.map (· ++ "/oceanbase/store")
    sqlPort := c.database.sqlPort
    rpcPort := c.database.rpcPort
    components :=
      ⟨none, "OceanBase", c.database.version, c.database.zones.flatMap (·.servers)⟩ ::
        ((c.proxy.map fun s => summary .proxy s.version s.servers).toList ++
          (c.agent.map fun s => summary .agent s.version s.servers).toList ++
          (c.console.map fun s => summary .console s.version s.servers).toList ++
          (c.configServer.map fun s => summary .configServer s.version s.servers).toList)
    zones := c.database.zones }

def optionalLine (label : String) (value : Option String) : List String :=
  value.toList.map (label ++ ·)

def lines (r : Review) : List String :=
  ["Deployment " ++ r.appName] ++
    optionalLine "  user:      " r.user ++
    optionalLine "  home path: " r.homePath ++
    optionalLine "  data dir:  " r.dataDir ++
    r.zones.map (fun z =>
      "  " ++ z.name ++ ": " ++ ", ".intercalate z.servers ++ " (RootServer " ++
        z.coordinator.getD "-" ++ ")") ++
    r.components.map fun c =>
      "  " ++ c.name ++ " " ++ c.version ++ ": " ++ ", ".intercalate c.servers

end Review

end DeployWizard
