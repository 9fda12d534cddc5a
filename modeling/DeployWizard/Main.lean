import DeployWizard.CommandLine.Run

set_option autoImplicit false

/-- The text of a file, if it can be read. -/
def readFile? (path : String) : IO (Option String) := do
  try
    let text ← IO.FS.readFile path
    return some text
  catch _ => return none

def main (arguments : List String) : IO UInt32 := do
  let config ← IO.getEnv "OBD_WIZARD_CONFIG"
  let server ← IO.getEnv "OBD_DEPLOYER_URL"
  let environment (name : String) : Option String :=
    if name = "OBD_WIZARD_CONFIG" then config
    else if name = "OBD_DEPLOYER_URL" then server
    else none
  let request := DeployWizard.CommandLine.read environment arguments
  let text ←
    match request.file? with
    | some path => readFile? path
    | none => pure none
  let session : DeployWizard.Service.Session := ⟨DeployWizard.Service.Server.unreachable, [], []⟩
  let effect := request.answer environment text session
  IO.print effect.printed
  return UInt32.ofNat effect.exit.status
