import DeployWizard.Script
import DeployWizard.Progress.Ratio
import DeployWizard.Service.Error

set_option autoImplicit false

/-!
Following an install. Two sides poll on one clock, the status of the task and its log. Each call
takes its time and is not interrupted; the pause after it is, when the monitor is cancelled. Times
are milliseconds from the start.
-/
namespace DeployWizard.Monitor

structure Answer (α : Type) where
  delay : Nat
  result : Except Service.Error α

inductive Event where
  | progress (ratio : Float)
  | status (task : TaskInfo)
  | log (chunk : LogChunk)
  | error (message : String)
  | finished (status : InstallStatus)

structure Timed (α : Type) where
  time : Nat
  what : α

def Answer.recorded {α : Type} (a : Answer α) (time : Nat) : List (Timed String) :=
  match a.result with
  | .ok _ => []
  | .error e => [⟨time, e.message⟩]

structure Options where
  /-- The pause between two polls of the same side. -/
  poll : Nat := 1000
  /-- The pause between the end of the task and its announcement. -/
  finishDelay : Nat := 2000
  cancel : Nat

/-- A pause that starts at a time: the time after it, or the time at which it is cut short. -/
def Options.pause (o : Options) (time length : Nat) : Except Nat Nat :=
  if o.cancel ≤ time + length then .error (max time o.cancel) else .ok (time + length)

theorem Options.pause_eq_ok {o : Options} {time length wake : Nat}
    (h : o.pause time length = .ok wake) : wake = time + length ∧ wake < o.cancel := by
  unfold pause at h
  split at h
  · simp at h
  · next hc =>
    injection h with h
    omega

theorem poll_advances {α : Type} (script : Script α) (cancel time wake : Nat)
    (hwake : wake < cancel) (htime : time ≤ wake)
    (h : ¬(script.upcoming = [] ∧ wake = time)) :
    Prod.Lex (· < ·) (· < ·) (script.next.2.upcoming.length, cancel - wake)
      (script.upcoming.length, cancel - time) := by
  by_cases hs : script.upcoming = []
  · rw [script.next_of_upcoming_nil hs]
    have hne : wake ≠ time := fun e => h ⟨hs, e⟩
    exact Prod.Lex.right _ (by omega)
  · exact Prod.Lex.left _ _ (script.upcoming_next_lt hs)

end DeployWizard.Monitor
