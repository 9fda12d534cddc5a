set_option autoImplicit false

namespace DeployWizard

structure Script (α : Type) where
  upcoming : List α
  after : α
  deriving DecidableEq

namespace Script

/-- The last item goes on for ever; an empty list gives only the other item. -/
def repeating {α : Type} (items : List α) (default : α) : Script α :=
  ⟨items, items.getLast?.getD default⟩

def next {α : Type} (s : Script α) : α × Script α :=
  match s.upcoming with
  | [] => (s.after, s)
  | a :: as => (a, { s with upcoming := as })

def map {α β : Type} (f : α → β) (s : Script α) : Script β :=
  ⟨s.upcoming.map f, f s.after⟩

def get {α : Type} (s : Script α) (i : Nat) : α :=
  (s.upcoming[i]?).getD s.after

theorem next_fst {α : Type} (s : Script α) : s.next.1 = s.get 0 := by
  rcases s with ⟨_ | ⟨a, as⟩, b⟩ <;> rfl

theorem get_next {α : Type} (s : Script α) (i : Nat) : s.next.2.get i = s.get (i + 1) := by
  rcases s with ⟨_ | ⟨a, as⟩, b⟩ <;> simp [next, get]

theorem upcoming_next_lt {α : Type} (s : Script α) (h : s.upcoming ≠ []) :
    s.next.2.upcoming.length < s.upcoming.length := by
  rcases s with ⟨_ | ⟨a, as⟩, b⟩
  · exact absurd rfl h
  · simp [next]

theorem next_of_upcoming_nil {α : Type} (s : Script α) (h : s.upcoming = []) : s.next.2 = s := by
  simp [next, h]

end Script

end DeployWizard
