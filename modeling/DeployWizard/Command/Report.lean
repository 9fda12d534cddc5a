import DeployWizard.Wizard
import DeployWizard.Service.Error

set_option autoImplicit false

namespace DeployWizard

namespace Command

inductive Level where
  | error
  | warn
  | info
  | debug
  deriving DecidableEq

def Level.name : Level → String
  | .error => "ERROR"
  | .warn => "WARN"
  | .info => "INFO"
  | .debug => "DEBUG"

inductive Note where
  | diagnostic (d : Diagnostic)
  | text (s : String)
  deriving DecidableEq

def Note.message : Note → String
  | .diagnostic d => d.message
  | .text s => s

structure LogLine where
  level : Level
  note : Note
  deriving DecidableEq

inductive Failure where
  | invalidFields (count : Nat)
  | step (e : StepError)
  | notCreated (name : String) (e : Service.Error)
  | watchCancelled
  deriving DecidableEq

def Failure.message : Failure → String
  | .invalidFields count => "node configuration has " ++ toString count ++ " invalid field(s)"
  | .step e => e.message
  | .notCreated name e => "failed to create deployment '" ++ name ++ "': " ++ e.message
  | .watchCancelled => "install monitoring cancelled"

end Command

structure Report (α : Type) where
  log : List Command.LogLine
  printed : String
  result : Except Command.Failure α

end DeployWizard
