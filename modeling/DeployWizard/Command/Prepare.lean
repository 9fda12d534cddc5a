import DeployWizard.Command.Report
import DeployWizard.WizardFile

set_option autoImplicit false

/-!
Replaying a wizard file. What it says about nodes goes through the node form, so that its mistakes
are reported like those of an operator; then the wizard advances to the review.
-/
namespace DeployWizard.Command

def enterZone (z : ZonePlan) (f : NodeForm) : List Diagnostic × NodeForm :=
  let (id, f) := f.addNamed z.name
  let (servers, f) := f.setServers id z.servers
  let serverDiagnostics :=
    match servers with
    | .ok ds => ds
    | .error issue => [⟨.zoneServers id, issue⟩]
  match z.coordinator with
  | none => (serverDiagnostics, f)
  | some c =>
    match f.setCoordinator id c with
    | (.ok (), f) => (serverDiagnostics, f)
    | (.error issue, f) => (serverDiagnostics ++ [⟨.zoneCoordinator id, issue⟩], f)

def enterZones : List ZonePlan → NodeForm → List Diagnostic × NodeForm
  | [], f => ([], f)
  | z :: zs, f =>
    let (ds, f) := enterZone z f
    let (rest, f) := enterZones zs f
    (ds ++ rest, f)

def replaceZones (zones : List ZonePlan) (f : NodeForm) : List Diagnostic × NodeForm :=
  if zones.isEmpty then ([], f)
  else
    -- The last zone cannot be removed, so the old zones go after the new ones have come.
    let before := f.topology.zones.map (·.id)
    let (ds, f) := enterZones zones f
    (ds, before.foldl (fun f id => (f.removeConfirmed id).2) f)

def listedNodes (s : Option NodeSettings) : Option (List String) :=
  (s.map (·.servers)).filter fun servers => !servers.isEmpty

def enterNodes (file : WizardFile) (f : NodeForm) : List Diagnostic × NodeForm :=
  let (zoneDiagnostics, f) := replaceZones file.zones f
  let (proxyDiagnostics, f) :=
    match listedNodes file.proxy with
    | some servers => f.setProxyServers servers
    | none => ([], f)
  let (consoleDiagnostics, f) :=
    match listedNodes file.console with
    | some servers => f.setConsoleServers servers
    | none => ([], f)
  (zoneDiagnostics ++ proxyDiagnostics ++ consoleDiagnostics, f)

def enterLogin (s : DeploymentSettings) (info : Option ServiceInfo) (f : NodeForm) : NodeForm :=
  let f :=
    if s.auth.user = "" then
      match info with
      | some info => f.applyServiceInfo info
      | none => f
    else f.setUser s.auth.user
  let f := (f.setPassword s.auth.password).setPort s.auth.port
  match s.homePath with
  | some path => f.setHomePath path
  | none => f

def fillNodeForm (file : WizardFile) (info : Option ServiceInfo) (f : NodeForm) :
    List Diagnostic × NodeForm :=
  let (diagnostics, f) := enterNodes file f
  (diagnostics, enterLogin file.deployment info f)

def lines (level : Level) (ds : List Diagnostic) : List LogLine :=
  ds.map fun d => ⟨level, .diagnostic d⟩

def fillWizard (file : WizardFile) (info : Option ServiceInfo) (w : Wizard) :
    List Diagnostic × Wizard :=
  match w.form with
  | none => ([], w)
  | some f =>
    let (ds, f) := fillNodeForm file info f
    (ds, { w with form := some f })

def prepare (file : WizardFile) (info : Option ServiceInfo) :
    List LogLine × Except Failure Wizard :=
  match (Wizard.start file.draft file.selection).next with
  | (.error e, _) => ([], .error (.step e))
  | (.ok _, w) =>
    let (ds, w) := fillWizard file info w
    let warnings := lines .warn ds
    match w.next with
    | (.error (.formInvalid ds), _) =>
      (warnings ++ lines .error ds, .error (.invalidFields ds.length))
    | (.error e, _) => (warnings, .error (.step e))
    | (.ok _, w) =>
      match w.next with
      | (.error e, _) => (warnings, .error (.step e))
      | (.ok _, w) => (warnings, .ok w)

def printReview (w : Wizard) : String :=
  String.join (w.review.lines.map (· ++ "\n"))

def validate (file : WizardFile) : Report Unit :=
  match prepare file none with
  | (log, .error e) => ⟨log, "", .error e⟩
  | (log, .ok w) => ⟨log, printReview w ++ "Configuration is valid\n", .ok ()⟩

end DeployWizard.Command
