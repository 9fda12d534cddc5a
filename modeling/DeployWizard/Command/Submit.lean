import DeployWizard.Command.Prepare
import DeployWizard.Service.Client

set_option autoImplicit false

namespace DeployWizard.Command
open Service

def askService (c : Client) (s : Session) : List LogLine × Option ServiceInfo × Session :=
  match c.serviceInfo s with
  | (.ok info, s) => ([], some info, s)
  | (.error e, s) =>
    ([⟨.warn, .text ("Could not read deployer environment: " ++ e.message)⟩], none, s)

/-- Checks a file and creates its deployment; the wizard is left on the install step. -/
def submit (file : WizardFile) (c : Client) (s : Session) : Report Wizard × Session :=
  let (asked, info, s) := askService c s
  let (log, prepared) := prepare file info
  let log := asked ++ log
  match prepared with
  | .error e => (⟨log, "", .error e⟩, s)
  | .ok w =>
    let name := w.draft.name
    match c.create name w.draft s with
    | (.error e, s) => (⟨log, printReview w, .error (.notCreated name e)⟩, s)
    | (.ok (), s) =>
      match w.next with
      | (.error e, _) => (⟨log, printReview w, .error (.step e)⟩, s)
      | (.ok _, w) =>
        let done : LogLine := ⟨.info, .text ("Deployment '" ++ name ++ "' submitted")⟩
        (⟨log ++ [done], printReview w, .ok w⟩, s)

end DeployWizard.Command
