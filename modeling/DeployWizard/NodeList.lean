import DeployWizard.Address
import DeployWizard.Diagnostic

set_option autoImplicit false

/-!
Node lists that follow the pool of assigned servers. A list offers the pool but also takes
addresses typed by hand. When the pool changes, entries that left it go and typed entries stay. An
address that the edit removed looks like a typed one by then, so the removed addresses are given.
-/
namespace DeployWizard.NodeList

structure Derived where
  values : List String
  issues : List Issue := []
  deriving DecidableEq

/-- An empty list takes the first pool address. Else entries in the pool stay, and so do entries
outside it that were not removed; if none is left, the first pool address takes their place.
Without a pool only typed entries stay. -/
def reconcile (current pool removed : List String) : Derived :=
  match pool with
  | [] => { values := current.filter (· ∉ removed) }
  | first :: _ =>
    -- Here the address is not looked at, whatever it is.
    if current.isEmpty then { values := [first] }
    else
      let kept := current.filter fun v => v ∈ pool || v ∉ removed
      if kept.isEmpty then
        { values := [first]
          issues := if isAddress first then [] else [.invalidAddress first] }
      else { values := kept }

def collapse (values : List String) : Derived :=
  if values.length ≤ 1 then { values }
  else { values := values.getLast?.toList, issues := [.multipleSelection] }

def gather : List String → List String → List String
  | seen, [] => seen
  | seen, entry :: entries =>
    let v := Text.trim entry
    if v = "" || v ∈ seen then gather seen entries else gather (seen ++ [v]) entries

def normalize (entries : List String) : List String :=
  gather [] entries

def invalidAddresses (field : Field) (values : List String) : List Diagnostic :=
  (values.filter fun v => !isAddress v).map fun v => ⟨field, .invalidAddress v⟩

end DeployWizard.NodeList
