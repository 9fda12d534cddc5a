import DeployWizard.Text.Blank
import DeployWizard.Text.Digit

set_option autoImplicit false

namespace DeployWizard
open Text

def isNameChar (c : Char) : Bool :=
  isAsciiAlphanumeric c || c == '_'

/-- A letter first, a letter or digit last, letters, digits and underscores between, 2 to 32
characters in all. -/
def isZoneName (s : String) : Bool :=
  match s.toList with
  | [] => false
  | c :: cs =>
    isAsciiLetter c && cs.length ≤ 31 && cs.all isNameChar &&
      match cs.getLast? with
      | some l => isAsciiAlphanumeric l
      | none => false

/-- Letters, digits and dots, 1 to 20 characters. -/
def isUserName (s : String) : Bool :=
  let cs := s.toList
  1 ≤ cs.length && cs.length ≤ 20 && cs.all fun c => isAsciiAlphanumeric c || c == '.'

def isHomePath (s : String) : Bool :=
  match s.toList with
  | '/' :: cs => !cs.any isBlank
  | _ => false

/-- The superuser's home stands at the root, everyone else's under the common home directory. -/
def defaultHomePath (user : String) : String :=
  if user = "root" then "/root" else "/home/" ++ user

end DeployWizard
