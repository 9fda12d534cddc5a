import DeployWizard.Text.Quoted

set_option autoImplicit false

namespace DeployWizard

structure ServiceInfo where
  user : String := ""
  deriving DecidableEq

inductive InstallStatus where
  | running
  | successful
  | failed
  | other (name : String)
  deriving DecidableEq

namespace InstallStatus

def name : InstallStatus → String
  | .running => "RUNNING"
  | .successful => "SUCCESSFUL"
  | .failed => "FAILED"
  | .other name => name

def ofName (s : String) : InstallStatus :=
  if s = "RUNNING" then .running
  else if s = "SUCCESSFUL" then .successful
  else if s = "FAILED" then .failed
  else .other s

/-- Anything but a running task has ended. -/
def isTerminal (s : InstallStatus) : Bool :=
  s ≠ .running

def label : InstallStatus → String
  | .running => "Running"
  | .successful => "Successful"
  | .failed => "Failed"
  | .other name => "Other(" ++ Text.quote name ++ ")"

end InstallStatus

structure TaskStep where
  component : String := ""
  status : InstallStatus
  result : String := ""
  deriving DecidableEq

structure TaskInfo where
  status : InstallStatus
  finished : UInt32 := 0
  total : UInt32 := 0
  current : Option String := none
  message : Option String := none
  steps : List TaskStep := []
  deriving DecidableEq

structure LogChunk where
  log : String := ""
  offset : UInt64 := 0
  deriving DecidableEq

end DeployWizard
