import Mathlib.Data.List.Basic
import DeployWizard.Proofs.Polling

set_option autoImplicit false

/-!
When the polls of a side are due. Each one is due a pause after the answer to the one before,
whatever that answer is; a run makes the polls that are due before it is cancelled, up to the end of
the task. What a side reports and when it wakes follow poll by poll.
-/
namespace DeployWizard.Monitor

section Due
variable {α : Type}

def due (poll : Nat) (script : Script (Answer α)) (start : Nat) : Nat → Nat
  | 0 => start
  | i + 1 => due poll script start i + (script.get i).delay + poll

def answeredAt (poll : Nat) (script : Script (Answer α)) (start i : Nat) : Nat :=
  due poll script start i + (script.get i).delay

variable (poll : Nat) (script : Script (Answer α)) (start : Nat)

theorem due_succ (i : Nat) :
    due poll script start (i + 1) = answeredAt poll script start i + poll :=
  rfl

theorem due_next (i : Nat) :
    due poll script.next.2 (start + script.next.1.delay + poll) i =
      due poll script start (i + 1) := by
  induction i with
  | zero => rw [script.next_fst]; rfl
  | succ i ih => rw [due, ih, script.get_next]; rfl

theorem answeredAt_next (i : Nat) :
    answeredAt poll script.next.2 (start + script.next.1.delay + poll) i =
      answeredAt poll script start (i + 1) := by
  rw [answeredAt, due_next, script.get_next, answeredAt]

theorem answeredAt_zero : answeredAt poll script start 0 = start + script.next.1.delay := by
  rw [answeredAt, script.next_fst]; rfl

theorem due_le_answeredAt (i : Nat) : due poll script start i ≤ answeredAt poll script start i :=
  Nat.le_add_right _ _

theorem answeredAt_add_poll_le {i j : Nat} (h : i < j) :
    answeredAt poll script start i + poll ≤ due poll script start j := by
  induction j with
  | zero => omega
  | succ j ih =>
    rw [due_succ]
    obtain rfl | hij := Nat.eq_or_lt_of_le (Nat.le_of_lt_succ h)
    · exact Nat.le_refl _
    · have hbefore := ih hij
      have hanswer := due_le_answeredAt poll script start j
      omega

theorem start_le_due (i : Nat) : start ≤ due poll script start i := by
  cases i with
  | zero => exact Nat.le_refl _
  | succ i =>
    have hfirst := answeredAt_add_poll_le poll script start i.add_one_pos
    rw [answeredAt_zero] at hfirst
    omega

theorem due_le_answeredAt_of_le {i j : Nat} (h : i ≤ j) :
    due poll script start i ≤ answeredAt poll script start j := by
  have hi := due_le_answeredAt poll script start i
  have hj := due_le_answeredAt poll script start j
  obtain rfl | hlt := Nat.eq_or_lt_of_le h
  · exact hi
  · have hnext := answeredAt_add_poll_le poll script start hlt
    omega

end Due

namespace Options

def wake (o : Options) (time length : Nat) : Nat :=
  if o.cancel ≤ time + length then max time o.cancel else time + length

variable {o : Options} {time length stop : Nat}

theorem wake_of_pause_eq_ok (h : o.pause time length = .ok stop) : o.wake time length = stop := by
  obtain ⟨rfl, hcancel⟩ := pause_eq_ok h
  exact if_neg (by omega)

theorem wake_of_pause_eq_error (h : o.pause time length = .error stop) :
    o.cancel ≤ time + length ∧ o.wake time length = stop := by
  unfold pause at h
  split at h
  next hcut =>
    injection h with h
    exact ⟨hcut, (if_pos hcut).trans h⟩
  next => cases h

end Options

theorem flatMap_range_succ {β : Type} (f : Nat → List β) (n : Nat) :
    (List.range (n + 1)).flatMap f = f 0 ++ (List.range n).flatMap fun i => f (i + 1) := by
  rw [List.range_succ_eq_map, List.flatMap_cons, List.flatMap_map]

/-- What a poll reports once the task ended with it: the announcement, if the pause before it is not
cut short. -/
def Answer.announcement (a : Answer TaskInfo) (o : Options) (time : Nat) : List (Timed Event) :=
  match a.ending? with
  | none => []
  | some status =>
    if o.cancel ≤ time + o.finishDelay then [] else [⟨time + o.finishDelay, .finished status⟩]

def Answer.pauseAfter (a : Answer TaskInfo) (o : Options) : Nat :=
  match a.ending? with
  | none => o.poll
  | some _ => o.finishDelay

def Unended (script : Script (Answer TaskInfo)) (i : Nat) : Prop :=
  ∀ j < i, (script.get j).ending? = none

theorem unended_succ_iff {script : Script (Answer TaskInfo)} {i : Nat} :
    Unended script (i + 1) ↔ script.next.1.ending? = none ∧ Unended script.next.2 i := by
  simp only [Unended, Nat.forall_lt_succ_left, script.next_fst, script.get_next]

def statusReport (o : Options) (script : Script (Answer TaskInfo)) (start i : Nat) :
    List (Timed Event) :=
  let time := answeredAt o.poll script start i
  (script.get i).statusEvents time ++ (script.get i).announcement o time

theorem statusReport_next (o : Options) (script : Script (Answer TaskInfo)) (start i : Nat) :
    statusReport o script.next.2 (start + script.next.1.delay + o.poll) i =
      statusReport o script start (i + 1) := by
  rw [statusReport, answeredAt_next, script.get_next, statusReport]

theorem statusReport_zero (o : Options) (script : Script (Answer TaskInfo)) (start : Nat) :
    statusReport o script start 0 =
      script.next.1.statusEvents (start + script.next.1.delay) ++
        script.next.1.announcement o (start + script.next.1.delay) := by
  rw [statusReport, answeredAt_zero, script.next_fst]

def statusWakes (o : Options) (script : Script (Answer TaskInfo)) (start i : Nat) : List Nat :=
  let time := answeredAt o.poll script start i
  [time, o.wake time ((script.get i).pauseAfter o)]

theorem statusWakes_next (o : Options) (script : Script (Answer TaskInfo)) (start i : Nat) :
    statusWakes o script.next.2 (start + script.next.1.delay + o.poll) i =
      statusWakes o script start (i + 1) := by
  rw [statusWakes, answeredAt_next, script.get_next, statusWakes]

theorem statusWakes_zero (o : Options) (script : Script (Answer TaskInfo)) (start : Nat) :
    statusWakes o script start 0 =
      [start + script.next.1.delay,
        o.wake (start + script.next.1.delay) (script.next.1.pauseAfter o)] := by
  rw [statusWakes, answeredAt_zero, script.next_fst]

namespace StatusPolls

variable {o : Options} {script : Script (Answer TaskInfo)} {last : Option TaskInfo} {time : Nat}
  {r : StatusRun}

theorem made_iff (h : StatusPolls o script last time r) (hpoll : 0 < o.poll) (i : Nat) :
    i < r.calls.length ↔ Unended script i ∧ due o.poll script time i < o.cancel := by
  induction h generalizing i with
  | @cancelled script _ time hcancel =>
    have hstart := start_le_due o.poll script time i
    simp only [List.length_nil, Nat.not_lt_zero, false_iff, not_and]
    omega
  | silenced hcancel hend _ | announced hcancel hend _ =>
    cases i with
    | zero => simpa [Unended, due] using hcancel
    | succ i => simp [unended_succ_iff, hend]
  | @stopped script _ time stop hcancel _ _ hwhy =>
    cases i with
    | zero => simpa [Unended, due] using hcancel
    | succ i =>
      have hcut := (Options.wake_of_pause_eq_error (hwhy.resolve_right hpoll.ne')).1
      have hlate := answeredAt_add_poll_le o.poll script time i.add_one_pos
      rw [answeredAt_zero] at hlate
      simp only [List.length_singleton, Nat.add_lt_iff_lt_sub_right, Nat.sub_self,
        Nat.not_lt_zero, false_iff, not_and]
      omega
  | @again script _ time wake r hcancel hend hpause _ ih =>
    obtain ⟨rfl, -⟩ := Options.pause_eq_ok hpause
    cases i with
    | zero => simpa [Unended, due] using hcancel
    | succ i =>
      rw [List.length_cons, Nat.add_lt_add_iff_right, ih, unended_succ_iff, due_next]
      simp only [hend, true_and]

theorem calls_eq (h : StatusPolls o script last time r) :
    r.calls = (List.range r.calls.length).map (due o.poll script time) := by
  induction h with
  | cancelled | silenced | announced | stopped => rfl
  | @again script _ time wake r _ _ hpause _ ih =>
    obtain ⟨rfl, -⟩ := Options.pause_eq_ok hpause
    rw [List.length_cons, List.range_succ_eq_map, List.map_cons, List.map_map]
    refine congrArg (time :: ·) (ih.trans (List.map_congr_left ?_))
    exact fun i _ => due_next o.poll script time i

theorem mem_calls_iff (h : StatusPolls o script last time r) {call : Nat} :
    call ∈ r.calls ↔ ∃ i < r.calls.length, due o.poll script time i = call := by
  have hmem : call ∈ r.calls ↔ call ∈ (List.range r.calls.length).map (due o.poll script time) := by
    rw [← h.calls_eq]
  rw [hmem, List.mem_map]
  simp only [List.mem_range]

theorem getLast?_calls (h : StatusPolls o script last time r) {i : Nat}
    (hlength : r.calls.length = i + 1) :
    r.calls.getLast? = some (due o.poll script time i) := by
  rw [h.calls_eq, hlength, List.getLast?_map, List.getLast?_range, if_neg i.succ_ne_zero]
  rfl

/-- What a run of the status side reports, and when it wakes, poll by poll. -/
theorem reports (h : StatusPolls o script last time r) (hpoll : 0 < o.poll) :
    r.events = (List.range r.calls.length).flatMap (statusReport o script time) ∧
      r.wakes = (List.range r.calls.length).flatMap (statusWakes o script time) := by
  induction h with
  | cancelled => exact ⟨rfl, rfl⟩
  | silenced _ hend hpause =>
    obtain ⟨hcut, hwake⟩ := Options.wake_of_pause_eq_error hpause
    simp [statusReport_zero, statusWakes_zero, Answer.announcement, Answer.pauseAfter, hend, hcut,
      hwake]
  | announced _ hend hpause =>
    have hwake := Options.wake_of_pause_eq_ok hpause
    obtain ⟨rfl, hcancel⟩ := Options.pause_eq_ok hpause
    simp [statusReport_zero, statusWakes_zero, Answer.announcement, Answer.pauseAfter, hend, hwake,
      hcancel]
  | stopped _ hend _ hwhy =>
    have hwake := (Options.wake_of_pause_eq_error (hwhy.resolve_right hpoll.ne')).2
    simp [statusReport_zero, statusWakes_zero, Answer.announcement, Answer.pauseAfter, hend, hwake]
  | @again script _ time _ _ _ hend hpause _ ih =>
    have hwake := Options.wake_of_pause_eq_ok hpause
    obtain ⟨rfl, -⟩ := Options.pause_eq_ok hpause
    obtain ⟨hevents, hwakes⟩ := ih
    have hreport : statusReport o script time 0 =
        script.next.1.statusEvents (time + script.next.1.delay) := by
      simp [statusReport_zero, Answer.announcement, hend]
    have hfirst : statusWakes o script time 0 =
        [time + script.next.1.delay, time + script.next.1.delay + o.poll] := by
      simp [statusWakes_zero, Answer.pauseAfter, hend, hwake]
    constructor
    · rw [List.length_cons, flatMap_range_succ, hreport, hevents]
      exact congrArg _ (List.flatMap_congr fun i _ => statusReport_next o script time i)
    · rw [List.length_cons, flatMap_range_succ, hfirst, hwakes]
      exact congrArg ([_, _] ++ ·) (List.flatMap_congr fun i _ => statusWakes_next o script time i)

theorem ended_eq_some_iff (h : StatusPolls o script last time r) {t : Nat} :
    r.ended = some t ↔ ∃ i < r.calls.length,
      ((script.get i).ending?).isSome ∧ answeredAt o.poll script time i = t := by
  induction h with
  | cancelled => simp
  | silenced _ hend _ | announced _ hend _ =>
    rw [Script.next_fst] at hend
    simp [answeredAt_zero, hend]
  | stopped _ hend _ _ =>
    rw [Script.next_fst] at hend
    simp [hend]
  | @again script _ time _ _ _ hend hpause _ ih =>
    obtain ⟨rfl, -⟩ := Options.pause_eq_ok hpause
    rw [List.length_cons, Nat.exists_lt_succ_left, ih]
    simp only [answeredAt_next, script.get_next, ← script.next_fst, hend, Option.isSome_none,
      Bool.false_eq_true, false_and, false_or]

end StatusPolls

def offsetAt (script : Script (Answer LogChunk)) (offset : UInt64) : Nat → UInt64
  | 0 => offset
  | i + 1 => (script.get i).offsetAfter (offsetAt script offset i)

theorem offsetAt_next (script : Script (Answer LogChunk)) (offset : UInt64) (i : Nat) :
    offsetAt script.next.2 (script.next.1.offsetAfter offset) i =
      offsetAt script offset (i + 1) := by
  induction i with
  | zero => rw [script.next_fst]; rfl
  | succ i ih => rw [offsetAt, ih, script.get_next]; rfl

theorem endedBy_of_le {ended : Option Nat} {t u : Nat} (h : endedBy ended t) (htu : t ≤ u) :
    endedBy ended u := by
  cases ended with
  | none => exact h
  | some e =>
    have he : e ≤ t := by simpa [endedBy] using h
    simpa [endedBy] using he.trans htu

def Answer.isDropped (a : Answer LogChunk) (ended : Option Nat) (time : Nat) : Bool :=
  a.isOk && endedBy ended time

def logReport (o : Options) (ended : Option Nat) (script : Script (Answer LogChunk))
    (start i : Nat) : List (Timed Event) :=
  let time := answeredAt o.poll script start i
  if (script.get i).isDropped ended time then [] else (script.get i).logEvents time

def logWakes (o : Options) (ended : Option Nat) (script : Script (Answer LogChunk))
    (start i : Nat) : List Nat :=
  let time := answeredAt o.poll script start i
  if (script.get i).isDropped ended time then [time] else [time, o.wake time o.poll]

section LogPlaces
variable (o : Options) (ended : Option Nat) (script : Script (Answer LogChunk)) (start : Nat)

theorem logReport_next (i : Nat) :
    logReport o ended script.next.2 (start + script.next.1.delay + o.poll) i =
      logReport o ended script start (i + 1) := by
  rw [logReport, answeredAt_next, script.get_next, logReport]

theorem logReport_zero :
    logReport o ended script start 0 =
      if script.next.1.isDropped ended (start + script.next.1.delay) then []
      else script.next.1.logEvents (start + script.next.1.delay) := by
  rw [logReport, answeredAt_zero, script.next_fst]

theorem logWakes_next (i : Nat) :
    logWakes o ended script.next.2 (start + script.next.1.delay + o.poll) i =
      logWakes o ended script start (i + 1) := by
  rw [logWakes, answeredAt_next, script.get_next, logWakes]

theorem logWakes_zero :
    logWakes o ended script start 0 =
      if script.next.1.isDropped ended (start + script.next.1.delay)
      then [start + script.next.1.delay]
      else [start + script.next.1.delay, o.wake (start + script.next.1.delay) o.poll] := by
  rw [logWakes, answeredAt_zero, script.next_fst]

end LogPlaces

namespace LogPolls

variable {o : Options} {ended : Option Nat} {script : Script (Answer LogChunk)} {offset : UInt64}
  {time : Nat} {r : LogRun}

theorem made_iff (h : LogPolls o ended script offset time r) (hpoll : 0 < o.poll) (i : Nat) :
    i < r.calls.length ↔ due o.poll script time i < o.cancel ∧
      endedBy ended (due o.poll script time i) = false := by
  induction h generalizing i with
  | @quiet script _ time hquiet =>
    have hstart := start_le_due o.poll script time i
    refine iff_of_false (Nat.not_lt_zero i) ?_
    rintro ⟨hcancel, hgoing⟩
    obtain hquiet | hquiet := hquiet
    · omega
    · rw [endedBy_of_le hquiet hstart] at hgoing
      contradiction
  | @dropped script _ time hcancel hgoing _ hend =>
    cases i with
    | zero => simpa [due] using ⟨hcancel, hgoing⟩
    | succ i =>
      have hlate := answeredAt_add_poll_le o.poll script time i.add_one_pos
      rw [answeredAt_zero] at hlate
      have hover := endedBy_of_le hend (Nat.le_of_add_right_le hlate)
      simp [hover]
  | @stopped script _ time stop hcancel hgoing _ _ hwhy =>
    cases i with
    | zero => simpa [due] using ⟨hcancel, hgoing⟩
    | succ i =>
      have hcut := (Options.wake_of_pause_eq_error (hwhy.resolve_right hpoll.ne')).1
      have hlate := answeredAt_add_poll_le o.poll script time i.add_one_pos
      rw [answeredAt_zero] at hlate
      refine iff_of_false (by simp) ?_
      rintro ⟨hearly, -⟩
      omega
  | @again script _ time _ _ hcancel hgoing _ hpause _ ih =>
    obtain ⟨rfl, -⟩ := Options.pause_eq_ok hpause
    cases i with
    | zero => simpa [due] using ⟨hcancel, hgoing⟩
    | succ i => rw [List.length_cons, Nat.add_lt_add_iff_right, ih, due_next]

theorem calls_eq (h : LogPolls o ended script offset time r) :
    r.calls = (List.range r.calls.length).map fun i =>
      ⟨due o.poll script time i, offsetAt script offset i⟩ := by
  induction h with
  | quiet | dropped | stopped => rfl
  | @again script offset time _ r _ _ _ hpause _ ih =>
    obtain ⟨rfl, -⟩ := Options.pause_eq_ok hpause
    rw [List.length_cons, List.range_succ_eq_map, List.map_cons, List.map_map]
    refine congrArg (⟨time, offset⟩ :: ·) (ih.trans (List.map_congr_left ?_))
    intro i _
    rw [due_next, offsetAt_next]
    rfl

theorem of_mem_calls (h : LogPolls o ended script offset time r) (hpoll : 0 < o.poll)
    {call : Timed UInt64} (hcall : call ∈ r.calls) :
    call.time < o.cancel ∧ endedBy ended call.time = false := by
  rw [h.calls_eq] at hcall
  obtain ⟨i, hi, rfl⟩ := List.mem_map.1 hcall
  exact (h.made_iff hpoll i).1 (List.mem_range.1 hi)

/-- What a run of the log side reports, and when it wakes, poll by poll. -/
theorem reports (h : LogPolls o ended script offset time r) (hpoll : 0 < o.poll) :
    r.events = (List.range r.calls.length).flatMap (logReport o ended script time) ∧
      r.wakes = (List.range r.calls.length).flatMap (logWakes o ended script time) := by
  induction h with
  | quiet => exact ⟨rfl, rfl⟩
  | dropped _ _ hok hend =>
    simp [logReport_zero, logWakes_zero, Answer.isDropped, hok, hend]
  | stopped _ _ hkept _ hwhy =>
    have hwake := (Options.wake_of_pause_eq_error (hwhy.resolve_right hpoll.ne')).2
    simp [logReport_zero, logWakes_zero, Answer.isDropped, hkept, hwake]
  | @again script _ time _ _ _ _ hkept hpause _ ih =>
    have hwake := Options.wake_of_pause_eq_ok hpause
    obtain ⟨rfl, -⟩ := Options.pause_eq_ok hpause
    obtain ⟨hevents, hwakes⟩ := ih
    have hreport : logReport o ended script time 0 =
        script.next.1.logEvents (time + script.next.1.delay) := by
      simp [logReport_zero, Answer.isDropped, hkept]
    have hfirst : logWakes o ended script time 0 =
        [time + script.next.1.delay, time + script.next.1.delay + o.poll] := by
      simp [logWakes_zero, Answer.isDropped, hkept, hwake]
    constructor
    · rw [List.length_cons, flatMap_range_succ, hreport, hevents]
      exact congrArg _ (List.flatMap_congr fun i _ => logReport_next o ended script time i)
    · rw [List.length_cons, flatMap_range_succ, hfirst, hwakes]
      exact congrArg ([_, _] ++ ·)
        (List.flatMap_congr fun i _ => logWakes_next o ended script time i)

end LogPolls

end DeployWizard.Monitor
