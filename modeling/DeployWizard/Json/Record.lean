import DeployWizard.Json.Value

set_option autoImplicit false

/-!
Records. A record is an object with one member for each field, or an array of its fields in order.
A field is looked up by its names; a member given twice is refused. A name from a fixed list is a
text, or the only key of an object. What a notation adds to that is its `Spelling`.
-/
namespace DeployWizard.Json

structure Slot where
  name : String
  aliases : List String := []
  optional : Bool := false

namespace Slot

def answers (s : Slot) (key : String) : Bool :=
  s.name = key || s.aliases.contains key

end Slot

inductive Unknown where
  | ignored
  | refused

structure Spelling where
  /-- Whether an array may go on after the last field of its record. -/
  surplus : Bool
  /-- Whether a value may stand beside a name that is the only key of an object. -/
  isFiller : Value → Bool

namespace Spelling

def strict : Spelling where
  surplus := false
  isFiller
    | .null => true
    | _ => false

def name? (sp : Spelling) : Value → Option String
  | .text s => some s
  | .object [(name, v)] => if sp.isFiller v then some name else none
  | _ => none

end Spelling

namespace Record

def found (s : Slot) (ms : List (String × Value)) : List Value :=
  (ms.filter fun m => s.answers m.1).map (·.2)

/-- The values of the fields, in order; none if a field has two. -/
def ofMembers : List Slot → List (String × Value) → Option (List (Option Value))
  | [], _ => some []
  | s :: ss, ms =>
    match found s ms with
    | [] => (ofMembers ss ms).map (none :: ·)
    | [v] => (ofMembers ss ms).map (some v :: ·)
    | _ => none

def ofItems (surplus : Bool) : List Slot → List Value → Option (List (Option Value))
  | [], [] => some []
  | [], _ :: _ => if surplus then some [] else none
  | s :: ss, [] => if s.optional then (ofItems surplus ss []).map (none :: ·) else none
  | _ :: ss, v :: vs => (ofItems surplus ss vs).map (some v :: ·)

def known (ss : List Slot) (ms : List (String × Value)) : Bool :=
  ms.all fun m => ss.any fun s => s.answers m.1

def fieldsIn (sp : Spelling) (ss : List Slot) (unknown : Unknown) :
    Value → Option (List (Option Value))
  | .object ms =>
    match unknown with
    | .ignored => ofMembers ss ms
    | .refused => if known ss ms then ofMembers ss ms else none
  | .array vs => ofItems sp.surplus ss vs
  | _ => none

def fields (ss : List Slot) (unknown : Unknown) : Value → Option (List (Option Value)) :=
  fieldsIn .strict ss unknown

end Record

def asText : Value → Option String
  | .text s => some s
  | _ => none

def asBool : Value → Option Bool
  | .bool b => some b
  | _ => none

/-- An integer below the bound, in its plain spelling. -/
def asNat (bound : Nat) : Value → Option Nat
  | .number n => n.natural?.bind fun k => if k < bound then some k else none
  | _ => none

def asPort : Value → Option UInt16
  | v => (asNat 65536 v).map UInt16.ofNat

def asList {α : Type} (item : Value → Option α) : Value → Option (List α)
  | .array vs => vs.mapM item
  | _ => none

def asTexts : Value → Option (List String) :=
  asList asText

def need {α : Type} (read : Value → Option α) (v : Option Value) : Option α :=
  v.bind read

def orElse {α : Type} (missing : α) (read : Value → Option α) : Option Value → Option α
  | none => some missing
  | some v => read v

def maybe {α : Type} (read : Value → Option α) : Option Value → Option (Option α)
  | none => some none
  | some .null => some none
  | some v => (read v).map some

end DeployWizard.Json
