import DeployWizard.Text.Blank
import DeployWizard.Text.Digit

set_option autoImplicit false

namespace DeployWizard

namespace Address
open Text

def inRange (low high c : Char) : Bool :=
  low.toNat ≤ c.toNat && c.toNat ≤ high.toNat

/-- One octet: at most 255 and without a leading zero. The last digit of an octet below 250, and
the middle one below 200, may be a decimal digit of any script. -/
def isOctet : List Char → Bool
  | [a] => isDecimalDigit a
  | [a, b] => inRange '1' '9' a && isDecimalDigit b
  | [a, b, c] =>
    (a == '1' && isDecimalDigit b && isDecimalDigit c) ||
      (a == '2' && inRange '0' '4' b && isDecimalDigit c) ||
      (a == '2' && b == '5' && inRange '0' '5' c)
  | _ => false

def isQuad (cs : List Char) : Bool :=
  match fields '.' cs with
  | [a, b, c, d] => isOctet a && isOctet b && isOctet c && isOctet d
  | _ => false

end Address

/-- A dotted quad; blanks around it are ignored. -/
def isAddress (s : String) : Bool :=
  Address.isQuad (Text.trimChars s.toList)

end DeployWizard
