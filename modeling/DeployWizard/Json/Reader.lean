import DeployWizard.Json.Lexer

set_option autoImplicit false

/-!
Reading a JSON text. The tokens are taken one by one; the containers that are still open lie on a
stack, so the depth of a text has no limit.
-/
namespace DeployWizard.Json

/-- An open container and what it holds so far, the last item first. A key with half a surrogate
pair is no text. -/
inductive Frame where
  | items (read : List Value)
  | member (read : List (Option String × Value)) (key : Option String)

inductive Position where
  | value (outer : List Frame)
  | firstItem (outer : List Frame)
  | firstKey (outer : List Frame)
  | key (outer : List Frame) (read : List (Option String × Value))
  | colon (outer : List Frame) (read : List (Option String × Value)) (key : Option String)
  | after (outer : List Frame) (v : Value)

/-- The object with these members, if all its keys are texts. -/
def objectOf (ms : List (Option String × Value)) : Value :=
  match ms.mapM fun (k, v) => k.map (·, v) with
  | some ms => .object ms
  | none => .unreadable

namespace Position

def start : Position := .value []

def beginValue (outer : List Frame) : Token → Option Position
  | .openArray => some (.firstItem outer)
  | .openObject => some (.firstKey outer)
  | .null => some (.after outer .null)
  | .bool b => some (.after outer (.bool b))
  | .number n => some (.after outer (.number n))
  | .text s => some (.after outer (.text s))
  | .unpaired => some (.after outer .unreadable)
  | _ => none

def step : Position → Token → Option Position
  | .value outer, t => beginValue outer t
  | .firstItem outer, .closeArray => some (.after outer (.array []))
  | .firstItem outer, t => beginValue (.items [] :: outer) t
  | .firstKey outer, .closeObject => some (.after outer (.object []))
  | .firstKey outer, .text k => some (.colon outer [] (some k))
  | .firstKey outer, .unpaired => some (.colon outer [] none)
  | .key outer read, .text k => some (.colon outer read (some k))
  | .key outer read, .unpaired => some (.colon outer read none)
  | .colon outer read k, .colon => some (.value (.member read k :: outer))
  | .after (.items vs :: outer) v, .comma => some (.value (.items (v :: vs) :: outer))
  | .after (.items vs :: outer) v, .closeArray => some (.after outer (.array (v :: vs).reverse))
  | .after (.member ms k :: outer) v, .comma => some (.key outer ((k, v) :: ms))
  | .after (.member ms k :: outer) v, .closeObject =>
    some (.after outer (objectOf ((k, v) :: ms).reverse))
  | _, _ => none

def stepAll : Position → List Token → Option Position
  | p, [] => some p
  | p, t :: ts => (p.step t).bind fun q => stepAll q ts

theorem stepAll_append (p : Position) (xs ys : List Token) :
    p.stepAll (xs ++ ys) = (p.stepAll xs).bind fun q => q.stepAll ys := by
  induction xs generalizing p with
  | nil => rfl
  | cons x xs ih =>
    show (p.step x).bind _ = ((p.step x).bind _).bind _
    cases p.step x with
    | none => rfl
    | some q => exact ih q

def finish : Position → Option Value
  | .after [] v => some v
  | _ => none

end Position

def ofTokens? (ts : List Token) : Option Value :=
  (Position.start.stepAll ts).bind Position.finish

def read? (s : String) : Option Value :=
  (tokens? s.toList).bind ofTokens?

end DeployWizard.Json
