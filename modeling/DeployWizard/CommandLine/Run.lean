import DeployWizard.CommandLine.Help
import DeployWizard.Command.Deploy

set_option autoImplicit false

namespace DeployWizard.CommandLine
open Command Service

inductive Exit where
  | success
  | failure
  | usage
  deriving DecidableEq

def Exit.status : Exit → Nat
  | .success => 0
  | .failure => 1
  | .usage => 2

def Exit.ofResult {α : Type} : Except Failure α → Exit
  | .ok _ => .success
  | .error _ => .failure

/-- An install that succeeded is a success. -/
def Exit.ofInstall : Except Failure InstallStatus → Exit
  | .ok .successful => .success
  | _ => .failure

structure Effect where
  exit : Exit
  printed : String
  session : Session

def Invocation.override (i : Invocation) (f : WizardFile) : WizardFile :=
  { f with
    service := { f.service with baseUrl := i.server.getD f.service.baseUrl }
    deployment := { f.deployment with appName := i.name.getD f.deployment.appName } }

def runSubmit (file : WizardFile) (c : Client) (s : Session) : Effect :=
  let (report, s) := submit file c s
  ⟨.ofResult report.result, report.printed, s⟩

def runWatch (file : WizardFile) (c : Client) (s : Session) : Effect :=
  let (report, s) := watch c file.deployment.appName file.service.poll {} s
  ⟨.ofInstall report.result, report.printed, s⟩

def runDeploy (file : WizardFile) (c : Client) (s : Session) : Effect :=
  let (report, s) := deploy file c {} s
  ⟨.ofInstall (report.result.map (·.status)), report.printed, s⟩

def run (i : Invocation) (text : Option String) (s : Session) : Effect :=
  match text.bind WizardFile.parse? with
  | none => ⟨.failure, "", s⟩
  | some file =>
    let file := i.override file
    let withClient (f : Client → Effect) : Effect :=
      match Client.ofBase file.service.baseUrl with
      | .error _ => ⟨.failure, "", s⟩
      | .ok c => f c
    match i.subcommand with
    | .validate =>
      let report := validate file
      ⟨.ofResult report.result, report.printed, s⟩
    | .submit => withClient fun c => runSubmit file c s
    | .watch => withClient fun c => runWatch file c s
    | .deploy => withClient fun c => runDeploy file c s

def Request.file? : Request → Option String
  | .run i => some i.config
  | _ => none

def Request.answer (environment : String → Option String) (text : Option String) (s : Session) :
    Request → Effect
  | .run i => CommandLine.run i text s
  | .version => ⟨.success, versionText, s⟩
  | .help none => ⟨.success, programHelp environment, s⟩
  | .help (some subcommand) => ⟨.success, subcommandHelp subcommand, s⟩
  | .helpOfHelp => ⟨.success, helpHelp, s⟩
  | .misused => ⟨.usage, "", s⟩

end DeployWizard.CommandLine
