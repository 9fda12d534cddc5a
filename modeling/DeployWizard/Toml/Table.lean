import DeployWizard.Json.Value

set_option autoImplicit false

/-!
The tables of a TOML document while it is read. A table is opened by one header at most, and dotted
keys open only tables of their own.
-/
namespace DeployWizard.Toml
open Json

/-- How a table came to be. -/
inductive Origin where
  /-- By the header of a table inside it. -/
  | implied
  /-- By its own header. -/
  | header
  /-- By a dotted key. -/
  | dotted
  deriving DecidableEq

inductive Node where
  | value (v : Value)
  | table (origin : Origin) (members : List (String × Node))
  | tables (items : List (List (String × Node)))

abbrev Table := List (String × Node)

namespace Table

def get? (t : Table) (key : String) : Option Node :=
  (t.find? (·.1 = key)).map (·.2)

def put (key : String) (n : Node) : Table → Table
  | [] => [(key, n)]
  | (k, m) :: t => if k = key then (k, n) :: t else (k, m) :: put key n t

/-- Sets the value of a dotted key. The key is new, and so are the tables it goes through, or they
were opened by dotted keys. -/
def assign (v : Value) : List String → Table → Option Table
  | [], _ => none
  | [key], t =>
    match t.get? key with
    | none => some (t.put key (.value v))
    | some _ => none
  | key :: keys, t =>
    match t.get? key with
    | none => (assign v keys []).map fun inner => t.put key (.table .dotted inner)
    | some (.table .dotted inner) =>
      (assign v keys inner).map fun inner => t.put key (.table .dotted inner)
    | some (.table .implied inner) =>
      if keys.length ≤ 1 then none
      else (assign v keys inner).map fun inner => t.put key (.table .implied inner)
    | some _ => none

/-- Changes the table at a path; tables on the way that are missing come into being. -/
def change (f : Table → Option Table) : List String → Table → Option Table
  | [], t => f t
  | key :: keys, t =>
    match t.get? key with
    | none => (change f keys []).map fun inner => t.put key (.table .implied inner)
    | some (.table origin inner) =>
      (change f keys inner).map fun inner => t.put key (.table origin inner)
    | some (.tables items) =>
      match items.getLast? with
      | some inner =>
        (change f keys inner).map fun inner => t.put key (.tables (items.dropLast ++ [inner]))
      | none => none
    | some (.value _) => none

def openOne (key : String) (t : Table) : Option Table :=
  match t.get? key with
  | none => some (t.put key (.table .header []))
  | some (.table .implied inner) => some (t.put key (.table .header inner))
  | some _ => none

def openNext (key : String) (t : Table) : Option Table :=
  match t.get? key with
  | none => some (t.put key (.tables [[]]))
  | some (.tables items) => some (t.put key (.tables (items ++ [[]])))
  | some _ => none

end Table

mutual
def Node.toValue : Node → Value
  | .value v => v
  | .table _ members => .object (membersOf members)
  | .tables items => .array (itemsOf items)

def membersOf : List (String × Node) → List (String × Value)
  | [] => []
  | (key, n) :: t => (key, n.toValue) :: membersOf t

def itemsOf : List (List (String × Node)) → List Value
  | [] => []
  | t :: ts => .object (membersOf t) :: itemsOf ts
end

end DeployWizard.Toml
