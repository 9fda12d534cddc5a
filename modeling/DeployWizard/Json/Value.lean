import DeployWizard.Text.Digit

set_option autoImplicit false

/-!
JSON values. Members keep their order and their repetitions; a number keeps the way it is written,
because an integer field takes no other spelling of an integer.
-/
namespace DeployWizard.Json

structure Number where
  negative : Bool
  whole : Nat
  fraction : List Nat
  exponent : Option Int
  deriving DecidableEq

namespace Number

def ofNat (n : Nat) : Number :=
  ⟨false, n, [], none⟩

def natural? (n : Number) : Option Nat :=
  if n.negative || !n.fraction.isEmpty || n.exponent.isSome then none else some n.whole

theorem natural?_ofNat (n : Nat) : (ofNat n).natural? = some n := rfl

/-- The least size that is too great for a double: half a step above the greatest one. -/
def overflow : Nat :=
  Nat.pow 2 1024 - Nat.pow 2 970

/-- Whether the double next to the number is finite. Far from the bound the number of digits
tells. -/
def isFinite (n : Number) : Bool :=
  let m := n.fraction.foldl (fun m d => m * 10 + d) n.whole
  let e := n.exponent.getD 0 - (n.fraction.length : Int)
  let size := ((Text.decimal m).length : Int) + e
  m = 0 || size ≤ 300 ||
    (size ≤ 310 && m * Nat.pow 10 e.toNat < overflow * Nat.pow 10 (-e).toNat)

end Number

inductive Value where
  | null
  | bool (b : Bool)
  | number (n : Number)
  | text (s : String)
  /-- Well formed, but no field holds it: a text or key with half a surrogate pair, a float or a
  date among settings. -/
  | unreadable
  | array (items : List Value)
  | object (members : List (String × Value))

namespace Value

def ofNat (n : Nat) : Value :=
  .number (.ofNat n)

def texts (ss : List String) : Value :=
  .array (ss.map .text)

def member? (v : Value) (name : String) : Option Value :=
  match v with
  | .object ms => (ms.find? (·.1 = name)).map (·.2)
  | _ => none

mutual
/-- Whether the value nests at most that many containers and holds only texts and finite numbers. -/
def fits (depth : Nat) : Value → Bool
  | .null => true
  | .bool _ => true
  | .number n => n.isFinite
  | .text _ => true
  | .unreadable => false
  | .array vs => 0 < depth && fitsAll (depth - 1) vs
  | .object ms => 0 < depth && fitsMembers (depth - 1) ms

def fitsAll (depth : Nat) : List Value → Bool
  | [] => true
  | v :: vs => fits depth v && fitsAll depth vs

def fitsMembers (depth : Nat) : List (String × Value) → Bool
  | [] => true
  | (_, v) :: ms => fits depth v && fitsMembers depth ms
end

end Value

end DeployWizard.Json
