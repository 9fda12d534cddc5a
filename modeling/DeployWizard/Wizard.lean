import DeployWizard.NodeForm
import DeployWizard.Review

set_option autoImplicit false

/-!
The steps of the wizard. It owns the draft; the node form is built when its step is entered and
written back when the step is left, in either direction. Only the way forwards asks for a valid
form.
-/
namespace DeployWizard

inductive Step where
  | deployConfig
  | nodeConfig
  | clusterConfig
  | checkInfo
  | install
  | finished
  deriving DecidableEq

namespace Step

def number : Step → Nat
  | .deployConfig => 1
  | .nodeConfig => 2
  | .clusterConfig => 3
  | .checkInfo => 4
  | .install => 5
  | .finished => 6

def ofNumber? : Nat → Option Step
  | 1 => some .deployConfig
  | 2 => some .nodeConfig
  | 3 => some .clusterConfig
  | 4 => some .checkInfo
  | 5 => some .install
  | 6 => some .finished
  | _ => none

def key : Step → String
  | .deployConfig => "deployConfig"
  | .nodeConfig => "nodeConfig"
  | .clusterConfig => "clusterConfig"
  | .checkInfo => "checkInfo"
  | .install => "install"
  | .finished => "finished"

def title : Step → String
  | .deployConfig => "1. deploy config"
  | .nodeConfig => "2. node config"
  | .clusterConfig => "3. cluster config"
  | .checkInfo => "4. check info"
  | .install => "5. install"
  | .finished => "6. finished"

def ofKey? (s : String) : Option Step :=
  [deployConfig, nodeConfig, clusterConfig, checkInfo, install, finished].find? (·.key = s)

/-- The step that the operator may advance to; the install ends by itself. -/
def next? : Step → Option Step
  | .deployConfig => some .nodeConfig
  | .nodeConfig => some .clusterConfig
  | .clusterConfig => some .checkInfo
  | .checkInfo => some .install
  | .install | .finished => none

def previous? : Step → Option Step
  | .nodeConfig => some .deployConfig
  | .clusterConfig => some .nodeConfig
  | .checkInfo => some .clusterConfig
  | .deployConfig | .install | .finished => none

end Step

inductive StepError where
  | formInvalid (diagnostics : List Diagnostic)
  | cannotAdvance (step : Step)
  | cannotGoBack (step : Step)
  | notInstalling (step : Step)
  | stillInstalling
  | selectionClosed (step : Step)
  deriving DecidableEq

namespace StepError

def isExpected : StepError → Bool
  | .formInvalid _ => true
  | _ => false

def transition (reason : String) : String :=
  "Invalid step transition: " ++ reason

def message : StepError → String
  | .formInvalid ds => toString ds.length ++ " field(s) need attention"
  | .cannotAdvance step => transition ("cannot advance from " ++ step.title)
  | .cannotGoBack step => transition ("cannot go back from " ++ step.title)
  | .notInstalling step => transition ("install is not running in " ++ step.title)
  | .stillInstalling => transition "install is running"
  | .selectionClosed step =>
    transition ("components are chosen in step 1, current step is " ++ step.title)

end StepError

structure Wizard where
  step : Step
  draft : Deployment
  selection : Selection
  errors : List String
  /-- Present in the node step only. -/
  form : Option NodeForm
  /-- The number of the next zone identity, while there is no form. -/
  nextId : Nat
  deriving DecidableEq

namespace Wizard

def start (draft : Deployment) (selection : Selection) : Wizard :=
  { step := .deployConfig, draft, selection, errors := [], form := none, nextId := 0 }

def leaveForm (w : Wizard) : Wizard :=
  match w.form with
  | none => w
  | some f => { w with draft := f.writeInto w.draft, form := none, nextId := f.topology.nextId }

def enter (w : Wizard) (step : Step) : Wizard :=
  let w := w.leaveForm
  { w with
    step
    errors := []
    form :=
      if step = .nodeConfig then some (NodeForm.ofDeployment w.draft w.selection w.nextId)
      else none }

def complaints (w : Wizard) : List Diagnostic :=
  match w.form with
  | none => []
  | some f => f.validate

def next (w : Wizard) : Except StepError Step × Wizard :=
  match w.step.next? with
  | none => (.error (.cannotAdvance w.step), w)
  | some step =>
    match w.complaints with
    | [] => (.ok step, w.enter step)
    | ds => (.error (.formInvalid ds), w)

def previous (w : Wizard) : Except StepError Step × Wizard :=
  match w.step.previous? with
  | none => (.error (.cannotGoBack w.step), w)
  | some step => (.ok step, w.enter step)

def finishInstall (w : Wizard) (status : InstallStatus) : Except StepError Step × Wizard :=
  if w.step ≠ .install then (.error (.notInstalling w.step), w)
  else if !status.isTerminal then (.error .stillInstalling, w)
  else (.ok .finished, w.enter .finished)

/-- The components can be chosen in the first step only. -/
def setSelection (w : Wizard) (selection : Selection) : Except StepError Unit × Wizard :=
  if w.step = .deployConfig then (.ok (), { w with selection })
  else (.error (.selectionClosed w.step), w)

def pushError (w : Wizard) (message : String) : Wizard :=
  { w with errors := w.errors ++ [message] }

def clearErrors (w : Wizard) : Wizard :=
  { w with errors := [] }

def review (w : Wizard) : Review :=
  Review.ofDeployment w.draft

end Wizard

end DeployWizard
