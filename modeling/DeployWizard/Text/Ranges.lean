import DeployWizard.Text.Digit

set_option autoImplicit false

namespace DeployWizard.Text

/-- The hexadecimal numbers of a text, with other characters between them; the flag holds what has
been read of the first one. -/
def hexNumbers : Option Nat → List Char → List Nat
  | none, [] => []
  | some n, [] => [n]
  | read, c :: cs =>
    match hexValue? c with
    | some d => hexNumbers (some (read.getD 0 * 16 + d)) cs
    | none =>
      match read with
      | some n => n :: hexNumbers none cs
      | none => hexNumbers none cs

def sumsFrom : Nat → List Nat → List Nat
  | _, [] => []
  | s, n :: ns => (s + n) :: sumsFrom (s + n) ns

structure Ranges where
  /-- The first member, the first one after it that is none, and so on upwards. -/
  bounds : List Nat

namespace Ranges

def ofGaps (text : String) : Ranges :=
  ⟨sumsFrom 0 (hexNumbers none text.toList)⟩

def contains (r : Ranges) (c : Char) : Bool :=
  (r.bounds.takeWhile (· ≤ c.toNat)).length % 2 = 1

end Ranges

end DeployWizard.Text
