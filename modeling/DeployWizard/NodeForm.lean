import DeployWizard.Topology.Edit
import DeployWizard.Topology.Validation
import DeployWizard.NodeList
import DeployWizard.Deployment
import DeployWizard.Install

set_option autoImplicit false

namespace DeployWizard

structure NodeForm where
  topology : Topology
  selection : Selection
  appName : String
  proxyServers : List String
  consoleServers : List String
  auth : Auth
  /-- Without the name of the deployment. -/
  homePath : Option String
  deriving DecidableEq

namespace NodeForm

def follow (f : NodeForm) (removed : List String) : List Diagnostic × NodeForm :=
  let pool := f.topology.allServers
  let proxy := NodeList.reconcile f.proxyServers pool removed
  let console := NodeList.reconcile f.consoleServers pool removed
  let single := NodeList.collapse console.values
  (proxy.issues.map (⟨.proxyServers, ·⟩) ++
      (console.issues ++ single.issues).map (⟨.consoleServers, ·⟩),
    { f with proxyServers := proxy.values, consoleServers := single.values })

def stripName (appName path : String) : String :=
  let tail := '/' :: appName.toList
  let cs := path.toList
  if tail.reverse.isPrefixOf cs.reverse then String.ofList (cs.take (cs.length - tail.length))
  else path

def ofDeployment (d : Deployment) (selection : Selection) (firstId : Nat) : NodeForm :=
  let c := d.components
  let form : NodeForm :=
    { topology := Topology.ofPlans c.database.zones firstId
      selection
      appName := c.database.appName
      proxyServers := (c.proxy.map (·.servers)).getD []
      consoleServers := ((c.console.map (·.servers)).bind List.head?).toList
      auth := d.auth.getD {}
      homePath := (d.homePath.map (stripName c.database.appName)).filter (· ≠ "") }
  (form.follow []).2

def editTopology {α : Type} (f : NodeForm) (edit : Topology → Except Issue α × Topology) :
    Except Issue α × NodeForm :=
  let (result, t) := edit f.topology
  (result, { f with topology := t })

def addNamed (f : NodeForm) (name : String) : ZoneId × NodeForm :=
  let (id, t) := f.topology.addNamed name
  (id, { f with topology := t })

def add? (f : NodeForm) (name : Option String) : Option (ZoneId × NodeForm) :=
  (f.topology.add? name).map fun (id, t) => (id, { f with topology := t })

def afterRemoval (f : NodeForm) : Except Issue Zone × Topology →
    Except Issue (List Diagnostic) × NodeForm
  | (.error e, t) => (.error e, { f with topology := t })
  | (.ok z, t) =>
    let (diagnostics, f) := { f with topology := t }.follow z.servers
    (.ok diagnostics, f)

def remove (f : NodeForm) (id : ZoneId) : Except Issue (List Diagnostic) × NodeForm :=
  f.afterRemoval (f.topology.remove id)

def removeConfirmed (f : NodeForm) (id : ZoneId) : Except Issue (List Diagnostic) × NodeForm :=
  f.afterRemoval (f.topology.removeConfirmed id)

def rename (f : NodeForm) (id : ZoneId) (name : String) : Except Issue Unit × NodeForm :=
  f.editTopology (·.rename id name)

/-- Replaces the servers of a zone; reports the dropped entries, then the node lists. -/
def setServers (f : NodeForm) (id : ZoneId) (entries : List String) :
    Except Issue (List Diagnostic) × NodeForm :=
  match f.topology.setServers id entries with
  | (.error e, t) => (.error e, { f with topology := t })
  | (.ok edit, t) =>
    let (diagnostics, f) := { f with topology := t }.follow edit.removed
    (.ok (edit.rejected.map (⟨.zoneServers id, ·⟩) ++ diagnostics), f)

def setCoordinator (f : NodeForm) (id : ZoneId) (entry : String) : Except Issue Unit × NodeForm :=
  f.editTopology (·.setCoordinator id entry)

def setProxyServers (f : NodeForm) (entries : List String) : List Diagnostic × NodeForm :=
  let values := NodeList.normalize entries
  (NodeList.invalidAddresses .proxyServers values, { f with proxyServers := values })

/-- The console runs on one node, the last one entered. -/
def setConsoleServers (f : NodeForm) (entries : List String) : List Diagnostic × NodeForm :=
  -- Of a repeated entry only the first place counts, also for which entry is the last.
  let single := NodeList.collapse (NodeList.normalize entries)
  (single.issues.map (⟨.consoleServers, ·⟩) ++
      NodeList.invalidAddresses .consoleServers single.values,
    { f with consoleServers := single.values })

/-- Sets the deploy user; the home path follows. -/
def setUser (f : NodeForm) (entry : String) : NodeForm :=
  let user := Text.trim entry
  { f with
    auth := { f.auth with user }
    homePath := if user = "" then f.homePath else some (defaultHomePath user) }

def setPassword (f : NodeForm) (password : Option String) : NodeForm :=
  { f with auth := { f.auth with password := password.filter (· ≠ "") } }

def setPort (f : NodeForm) (port : UInt16) : NodeForm :=
  { f with auth := { f.auth with port } }

def setHomePath (f : NodeForm) (entry : String) : NodeForm :=
  let path := Text.trim entry
  { f with homePath := if path = "" then none else some path }

def applyServiceInfo (f : NodeForm) (info : ServiceInfo) : NodeForm :=
  if f.auth.user = "" && info.user ≠ "" then f.setUser info.user else f

def consoleDiagnostics (f : NodeForm) : List Diagnostic :=
  if f.selection.enabled .console then
    (if f.consoleServers.isEmpty then [⟨.consoleServers, .required⟩]
      else if 1 < f.consoleServers.length then [⟨.consoleServers, .multipleSelection⟩]
      else []) ++
      NodeList.invalidAddresses .consoleServers f.consoleServers
  else []

def proxyDiagnostics (f : NodeForm) : List Diagnostic :=
  if f.selection.enabled .proxy then
    (if f.proxyServers.isEmpty then [⟨.proxyServers, .required⟩] else []) ++
      NodeList.invalidAddresses .proxyServers f.proxyServers
  else []

def userDiagnostics (f : NodeForm) : List Diagnostic :=
  if f.auth.user = "" then [⟨.user, .required⟩]
  else if isUserName f.auth.user then []
  else [⟨.user, .invalidEntry "only letters, digits and dots, at most 20 characters"⟩]

def portDiagnostics (f : NodeForm) : List Diagnostic :=
  if f.auth.port = 0 then [⟨.port, .required⟩] else []

def homePathDiagnostics (f : NodeForm) : List Diagnostic :=
  match f.homePath with
  | none => [⟨.homePath, .required⟩]
  | some path =>
    if isHomePath path then []
    else [⟨.homePath, .invalidEntry (path ++ " is not an absolute path")⟩]

def validate (f : NodeForm) : List Diagnostic :=
  f.topology.validate ++ f.consoleDiagnostics ++ f.proxyDiagnostics ++ f.userDiagnostics ++
    f.portDiagnostics ++ f.homePathDiagnostics

/-- Writes the form into a draft. Sections of components that are not chosen go; versions and ports
stay. -/
def writeInto (f : NodeForm) (d : Deployment) : Deployment :=
  let c := d.components
  { auth := some f.auth
    components :=
      { database := { c.database with zones := f.topology.plans }
        proxy :=
          if f.selection.enabled .proxy then
            some { c.proxy.getD {} with servers := f.proxyServers }
          else none
        agent :=
          if f.selection.enabled .agent then
            some { c.agent.getD {} with servers := f.topology.allServers }
          else none
        console :=
          if f.selection.enabled .console then
            some { c.console.getD {} with servers := f.consoleServers }
          else none
        -- The form has no nodes for a config server, so it makes no section for one.
        configServer := if f.selection.enabled .configServer then c.configServer else none }
    -- The name is appended to a checked path, but is not checked.
    homePath := f.homePath.map (· ++ "/" ++ f.appName) }

end NodeForm

end DeployWizard
