import DeployWizard.Text.Digit

set_option autoImplicit false

namespace DeployWizard.Text.Percent

def encodeByte (b : UInt8) : List Char :=
  ['%', upperHex (b.toNat / 16), upperHex (b.toNat % 16)]

def encodeChar (c : Char) : List Char :=
  (String.utf8EncodeChar c).flatMap encodeByte

/-- Characters in `kept` stay, all others are encoded. -/
def encode (kept : Char → Bool) (cs : List Char) : List Char :=
  cs.flatMap fun c => if kept c then [c] else encodeChar c

/-- The bytes that a text stands for. A percent sign that two digits do not follow stands for
itself. -/
def decode : List Char → List UInt8
  | [] => []
  | '%' :: a :: b :: cs =>
    match hexValue? a, hexValue? b with
    | some x, some y => UInt8.ofNat (x * 16 + y) :: decode cs
    | _, _ => 0x25 :: decode (a :: b :: cs)
  | c :: cs => String.utf8EncodeChar c ++ decode cs

def isUnreserved (c : Char) : Bool :=
  isAsciiAlphanumeric c || c = '-' || c = '_' || c = '.' || c = '~'

def textOf? (bs : List UInt8) : Option (List Char) :=
  (String.fromUTF8? ⟨bs.toArray⟩).map String.toList

end DeployWizard.Text.Percent
