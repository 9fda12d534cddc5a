import DeployWizard.Proofs.Causality
import DeployWizard.Proofs.StatusTimes

set_option autoImplicit false

namespace DeployWizard.Monitor

def Event.isPaired : Event → Bool
  | .progress _ | .status _ => true
  | .log _ | .error _ | .finished _ => false

theorem Event.unpaired_of_not_task {e : Event} (h : e.isTask = false) : e.isPaired = false := by
  cases e with
  | progress | status | finished => contradiction
  | log | error => rfl

/-- Each progress is followed at once by the status of its task, at the same time, and there is no
other progress or status. -/
inductive Paired : List (Timed Event) → Prop
  | nil : Paired []
  | task {rest : List (Timed Event)} (time : Nat) (task : TaskInfo) (hrest : Paired rest) :
      Paired (⟨time, .progress (Progress.ratio task.finished task.total)⟩ ::
        ⟨time, .status task⟩ :: rest)
  | other {e : Timed Event} {rest : List (Timed Event)} (he : e.what.isPaired = false)
      (hrest : Paired rest) : Paired (e :: rest)

namespace Paired

variable {events events' : List (Timed Event)}

theorem of_unpaired (h : ∀ e ∈ events, e.what.isPaired = false) : Paired events := by
  induction events with
  | nil => exact .nil
  | cons e rest ih =>
    exact .other (h e List.mem_cons_self) (ih fun x hx => h x (List.mem_cons_of_mem e hx))

theorem append (h : Paired events) (h' : Paired events') : Paired (events ++ events') := by
  induction h with
  | nil => exact h'
  | task time task _ ih => exact .task time task ih
  | other he _ ih => exact .other he ih

theorem flatMap {α : Type} {l : List α} {f : α → List (Timed Event)} (h : ∀ a ∈ l, Paired (f a)) :
    Paired (l.flatMap f) := by
  induction l with
  | nil => exact .nil
  | cons a l ih =>
    rw [List.flatMap_cons]
    exact (h a List.mem_cons_self).append (ih fun x hx => h x (List.mem_cons_of_mem a hx))

theorem atTime (h : Paired events) (t : Nat) : Paired (atTime events t) := by
  induction h with
  | nil => exact .nil
  | task time task _ ih =>
    by_cases hnow : time = t
    · rw [Monitor.atTime, List.filter_cons_of_pos (by simpa using hnow),
        List.filter_cons_of_pos (by simpa using hnow)]
      exact .task time task ih
    · rw [Monitor.atTime, List.filter_cons_of_neg (by simpa using hnow),
        List.filter_cons_of_neg (by simpa using hnow)]
      exact ih
  | @other e _ he _ ih =>
    by_cases hnow : e.time = t
    · rw [Monitor.atTime, List.filter_cons_of_pos (by simpa using hnow)]
      exact .other he ih
    · rw [Monitor.atTime, List.filter_cons_of_neg (by simpa using hnow)]
      exact ih

theorem weave {flag : Bool} {ts : List Nat} {status log : List (Timed Event)}
    (h : Turns ts status log) (hstatus : Paired status) (hlog : Paired log) :
    Paired (weave flag ts status log) := by
  rw [weave_eq_flatMap h]
  apply flatMap
  intro t _
  cases flag == statusLeads ts t with
  | true => exact (hstatus.atTime t).append (hlog.atTime t)
  | false => exact (hlog.atTime t).append (hstatus.atTime t)

theorem preceded (h : Paired events) {before after : List (Timed Event)} {time : Nat}
    {task : TaskInfo} (hsplit : events = before ++ ⟨time, .status task⟩ :: after) :
    ∃ earlier, before =
      earlier ++ [⟨time, .progress (Progress.ratio task.finished task.total)⟩] := by
  induction h generalizing before with
  | nil => simp at hsplit
  | task time' task' _ ih =>
    match before with
    | [] => simp at hsplit
    | [progress] =>
      simp only [List.cons_append, List.nil_append, List.cons.injEq, Timed.mk.injEq,
        Event.status.injEq] at hsplit
      obtain ⟨rfl, ⟨rfl, rfl⟩, -⟩ := hsplit
      exact ⟨[], rfl⟩
    | progress :: status :: before =>
      simp only [List.cons_append, List.cons.injEq] at hsplit
      obtain ⟨rfl, rfl, hsplit⟩ := hsplit
      obtain ⟨earlier, rfl⟩ := ih hsplit
      exact ⟨_ :: _ :: earlier, rfl⟩
  | other he _ ih =>
    match before with
    | [] =>
      rw [List.nil_append, List.cons.injEq] at hsplit
      rw [hsplit.1] at he
      contradiction
    | e :: before =>
      rw [List.cons_append, List.cons.injEq] at hsplit
      obtain ⟨earlier, rfl⟩ := ih hsplit.2
      exact ⟨e :: earlier, rfl⟩

theorem followed (h : Paired events) {before after : List (Timed Event)} {time : Nat}
    {ratio : Float} (hsplit : events = before ++ ⟨time, .progress ratio⟩ :: after) :
    ∃ task later, ratio = Progress.ratio task.finished task.total ∧
      after = ⟨time, .status task⟩ :: later := by
  induction h generalizing before with
  | nil => simp at hsplit
  | task time' task' _ ih =>
    match before with
    | [] =>
      simp only [List.nil_append, List.cons.injEq, Timed.mk.injEq, Event.progress.injEq] at hsplit
      obtain ⟨⟨rfl, rfl⟩, rfl⟩ := hsplit
      exact ⟨task', _, rfl, rfl⟩
    | [progress] => simp at hsplit
    | progress :: status :: before =>
      simp only [List.cons_append, List.cons.injEq] at hsplit
      exact ih hsplit.2.2
  | other he _ ih =>
    match before with
    | [] =>
      rw [List.nil_append, List.cons.injEq] at hsplit
      rw [hsplit.1] at he
      contradiction
    | e :: before =>
      rw [List.cons_append, List.cons.injEq] at hsplit
      exact ih hsplit.2

end Paired

theorem Answer.statusEvents_paired (a : Answer TaskInfo) (time : Nat) :
    Paired (a.statusEvents time) := by
  unfold statusEvents
  split
  next task _ => exact .task time task .nil
  next => exact .other rfl .nil

theorem StatusPolls.paired {o : Options} {script : Script (Answer TaskInfo)}
    {last : Option TaskInfo} {time : Nat} {r : StatusRun} (h : StatusPolls o script last time r) :
    Paired r.events := by
  induction h with
  | cancelled => exact .nil
  | silenced | stopped => exact Answer.statusEvents_paired _ _
  | announced => exact (Answer.statusEvents_paired _ _).append (.other rfl .nil)
  | again _ _ _ _ ih => exact (Answer.statusEvents_paired _ _).append ih

theorem run_paired (o : Options) (statuses : Script (Answer TaskInfo))
    (logs : Script (Answer LogChunk)) : Paired (run o statuses logs).events := by
  rw [events_run]
  exact Paired.weave (turns_run o statuses logs) (statusSide_polls o statuses).paired
    (Paired.of_unpaired fun e he =>
      Event.unpaired_of_not_task ((logSide_polls o statuses logs).not_task e he))

end DeployWizard.Monitor
