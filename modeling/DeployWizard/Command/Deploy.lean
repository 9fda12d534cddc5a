import DeployWizard.Command.Submit
import DeployWizard.Command.Watch

set_option autoImplicit false

namespace DeployWizard.Command
open Service

structure Installed where
  status : InstallStatus
  wizard : Wizard
  deriving DecidableEq

def conclude (w : Wizard) : Except Failure InstallStatus → Except Failure Installed
  | .error e => .error e
  | .ok status =>
    match w.finishInstall status with
    | (.error e, _) => .error (.step e)
    | (.ok _, w) => .ok ⟨status, w⟩

def deploy (file : WizardFile) (c : Client) (feed : Feed) (s : Session) :
    Report Installed × Session :=
  let (created, s) := submit file c s
  match created.result with
  | .error e => (⟨created.log, created.printed, .error e⟩, s)
  | .ok w =>
    let (watched, s) := watch c w.draft.name file.service.poll feed s
    (⟨created.log ++ watched.log, created.printed ++ watched.printed, conclude w watched.result⟩,
      s)

end DeployWizard.Command
