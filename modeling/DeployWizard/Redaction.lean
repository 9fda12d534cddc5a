import DeployWizard.Text.Blank
import DeployWizard.Text.Digit

set_option autoImplicit false

namespace DeployWizard.Redaction
open Text

def passwordKey : List Char := "\"password\"".toList

def mask : List Char := "\"password\":\"******\"".toList

def afterText? : List Char → List Char → Option (List Char)
  | [], cs => some cs
  | _ :: _, [] => none
  | p :: ps, c :: cs => if p = c then afterText? ps cs else none

/-- What follows the closing quote of a string literal; a backslash takes the next character with
it, unless that is a line feed. -/
def afterLiteral? : List Char → Option (List Char)
  | [] => none
  | '"' :: cs => some cs
  | '\\' :: c :: cs => if c = '\n' then none else afterLiteral? cs
  | '\\' :: [] => none
  | _ :: cs => afterLiteral? cs

def afterPassword? (cs : List Char) : Option (List Char) :=
  match afterText? passwordKey cs with
  | none => none
  | some r =>
    match r.dropWhile isBlank with
    | ':' :: r =>
      match r.dropWhile isBlank with
      | '"' :: r => afterLiteral? r
      | _ => none
    | _ => none

/-- Masks every password member, from left to right; `skip` characters belong to one already
masked. -/
def maskFrom : Nat → List Char → List Char
  | _, [] => []
  | skip + 1, _ :: cs => maskFrom skip cs
  | 0, c :: cs =>
    match afterPassword? (c :: cs) with
    | some r => mask ++ maskFrom (cs.length - r.length) cs
    | none => c :: maskFrom 0 cs

def maskPasswords (s : String) : String :=
  String.ofList (maskFrom 0 s.toList)

def limit : Nat := 256

def takeBytes : Nat → List Char → List Char
  | _, [] => []
  | room, c :: cs => if c.utf8Size ≤ room then c :: takeBytes (room - c.utf8Size) cs else []

def truncate (s : String) : String :=
  if s.utf8ByteSize ≤ limit then s
  else
    String.ofList (takeBytes limit s.toList) ++ "... [truncated, total " ++
      toString s.utf8ByteSize ++ " bytes]"

def redact (s : String) : String :=
  truncate (maskPasswords s)

end DeployWizard.Redaction
