import DeployWizard.Proofs.Causality
import DeployWizard.Proofs.StatusTimes

set_option autoImplicit false

namespace DeployWizard.Monitor

section InFlight
variable {α : Type}

/-- The calls that are in flight at a time, with their places. -/
def inFlight (T : Nat) (calls : List Nat) (script : Script (Answer α)) : List (Nat × Nat) :=
  calls.zipIdx.filter fun (call, i) => call < T ∧ T ≤ call + (script.get i).delay

def reportsOf (report : Answer α → Nat → List (Timed Event)) (script : Script (Answer α))
    (calls : List (Nat × Nat)) : List (Timed Event) :=
  calls.flatMap fun (call, i) => report (script.get i) (call + (script.get i).delay)

variable (poll : Nat) (script : Script (Answer α)) (start : Nat)

def spans (T i : Nat) : Bool :=
  due poll script start i < T ∧ T ≤ answeredAt poll script start i

theorem inFlight_due (T n : Nat) :
    inFlight T ((List.range n).map (due poll script start)) script =
      ((List.range n).filter (spans poll script start T)).map
        fun i => (due poll script start i, i) := by
  have hplaces : ((List.range n).map (due poll script start)).zipIdx =
      (List.range n).map fun i => (due poll script start i, i) := by
    apply List.ext_getElem <;> simp
  rw [inFlight, hplaces, List.filter_map]
  rfl

theorem reportsOf_inFlight_due (report : Answer α → Nat → List (Timed Event)) (T n : Nat) :
    reportsOf report script (inFlight T ((List.range n).map (due poll script start)) script) =
      ((List.range n).filter (spans poll script start T)).flatMap
        fun i => report (script.get i) (answeredAt poll script start i) := by
  rw [inFlight_due, reportsOf, List.flatMap_map]
  rfl

theorem length_inFlight_due {poll : Nat} (hpoll : 0 < poll) (T n : Nat) :
    (inFlight T ((List.range n).map (due poll script start)) script).length ≤ 1 := by
  rw [inFlight_due, List.length_map]
  have hpairwise : ((List.range n).filter (spans poll script start T)).Pairwise
      fun _ _ => False := by
    rw [List.pairwise_filter]
    refine List.pairwise_lt_range.imp ?_
    intro i j hij hi hj
    have hnext := answeredAt_add_poll_le poll script start hij
    simp only [spans, decide_eq_true_eq] at hi hj
    omega
  cases hspans : (List.range n).filter (spans poll script start T) with
  | nil => simp
  | cons i rest =>
    cases rest with
    | nil => simp
    | cons j rest =>
      rw [hspans] at hpairwise
      exact ((List.pairwise_cons.1 hpairwise).1 j List.mem_cons_self).elim

end InFlight

variable {o : Options}

theorem Answer.filter_late_announcement (a : Answer TaskInfo) (time : Nat) :
    (a.announcement o time).filter (o.cancel ≤ ·.time) = [] := by
  rw [List.filter_eq_nil_iff]
  intro e he
  obtain ⟨status, -, hcancel, rfl⟩ := mem_announcement_iff.1 he
  simpa using hcancel

theorem filter_late_of_time {events : List (Timed Event)} {time : Nat}
    (h : ∀ e ∈ events, e.time = time) (T : Nat) :
    events.filter (T ≤ ·.time) = if T ≤ time then events else [] := by
  split
  next hlate =>
    rw [List.filter_eq_self]
    intro e he
    simpa [h e he] using hlate
  next hearly =>
    rw [List.filter_eq_nil_iff]
    intro e he
    simpa [h e he] using hearly

theorem late_flatMap_range {α : Type} {script : Script (Answer α)} {start n T : Nat}
    {f : Nat → List (Timed Event)} (hmade : ∀ i < n, due o.poll script start i < T)
    (hearly : ∀ i, answeredAt o.poll script start i < T → (f i).filter (T ≤ ·.time) = []) :
    ((List.range n).flatMap f).filter (T ≤ ·.time) =
      ((List.range n).filter (spans o.poll script start T)).flatMap
        fun i => (f i).filter (T ≤ ·.time) := by
  rw [List.filter_flatMap, flatMap_filter_of_nil]
  intro i hi hspans
  have hdue := hmade i (List.mem_range.1 hi)
  apply hearly
  simpa [spans, hdue] using hspans

theorem StatusPolls.late_events {script : Script (Answer TaskInfo)} {last : Option TaskInfo}
    {time : Nat} {r : StatusRun} (h : StatusPolls o script last time r) (hpoll : 0 < o.poll) :
    r.events.filter (o.cancel ≤ ·.time) =
      reportsOf Answer.statusEvents script (inFlight o.cancel r.calls script) := by
  have hreport : ∀ i, (statusReport o script time i).filter (o.cancel ≤ ·.time) =
      if o.cancel ≤ answeredAt o.poll script time i
      then (script.get i).statusEvents (answeredAt o.poll script time i) else [] := by
    intro i
    rw [statusReport, List.filter_append, Answer.filter_late_announcement, List.append_nil]
    exact filter_late_of_time (fun e he => (Answer.of_mem_statusEvents he).1) o.cancel
  have hmade : ∀ i < r.calls.length, due o.poll script time i < o.cancel :=
    fun i hi => ((h.made_iff hpoll i).1 hi).2
  have hearly : ∀ i, answeredAt o.poll script time i < o.cancel →
      (statusReport o script time i).filter (o.cancel ≤ ·.time) = [] :=
    fun i hi => (hreport i).trans (if_neg (Nat.not_le_of_lt hi))
  rw [(h.reports hpoll).1, late_flatMap_range hmade hearly, h.calls_eq, reportsOf_inFlight_due,
    List.length_map, List.length_range]
  apply List.flatMap_congr
  intro i hi
  have hspans := (List.mem_filter.1 hi).2
  rw [hreport, if_pos]
  exact (of_decide_eq_true hspans).2

theorem LogPolls.times_eq {ended : Option Nat} {script : Script (Answer LogChunk)}
    {offset : UInt64} {time : Nat} {r : LogRun} (h : LogPolls o ended script offset time r) :
    r.calls.map (·.time) = (List.range r.calls.length).map (due o.poll script time) := by
  rw [h.calls_eq, List.map_map, List.length_map, List.length_range]
  rfl

/-- After the monitor is cancelled the log side reports the call in flight at most. -/
theorem LogPolls.late_events_sublist {ended : Option Nat} {script : Script (Answer LogChunk)}
    {offset : UInt64} {time : Nat} {r : LogRun} (h : LogPolls o ended script offset time r)
    (hpoll : 0 < o.poll) :
    (r.events.filter (o.cancel ≤ ·.time)).Sublist
      (reportsOf Answer.logEvents script (inFlight o.cancel (r.calls.map (·.time)) script)) := by
  have hmade : ∀ i < r.calls.length, due o.poll script time i < o.cancel :=
    fun i hi => ((h.made_iff hpoll i).1 hi).1
  have hearly : ∀ i, answeredAt o.poll script time i < o.cancel →
      (logReport o ended script time i).filter (o.cancel ≤ ·.time) = [] := by
    intro i hi
    rw [filter_late_of_time fun e he => time_of_mem_logReport he, if_neg (Nat.not_le_of_lt hi)]
  rw [(h.reports hpoll).1, late_flatMap_range hmade hearly, h.times_eq, reportsOf_inFlight_due]
  apply flatMap_sublist
  intro i _
  refine (List.filter_sublist).trans ?_
  unfold logReport
  dsimp only
  split
  · exact List.nil_sublist _
  · exact List.Sublist.refl _

/-- Once it is cancelled a run makes no call and announces nothing. It waits for the calls in
flight, one of each side at most, and reports only these; a piece of log may still be dropped. -/
structure WindsDown (o : Options) (statuses : Script (Answer TaskInfo))
    (logs : Script (Answer LogChunk)) (r : Run) : Prop where
  statusCalls_lt : ∀ call ∈ r.statusCalls, call < o.cancel
  logCalls_lt : ∀ call ∈ r.logCalls, call.time < o.cancel
  finished_lt : ∀ e ∈ r.events, e.what.isFinished → e.time < o.cancel
  status_inFlight : (inFlight o.cancel r.statusCalls statuses).length ≤ 1
  log_inFlight : (inFlight o.cancel (r.logCalls.map (·.time)) logs).length ≤ 1
  late_events : ∃ kept : List (Timed Event),
    kept.Sublist
        (reportsOf Answer.logEvents logs (inFlight o.cancel (r.logCalls.map (·.time)) logs)) ∧
      (r.events.filter (o.cancel ≤ ·.time)).Perm
        (reportsOf Answer.statusEvents statuses (inFlight o.cancel r.statusCalls statuses) ++ kept)

theorem StatusPolls.finished_lt {script : Script (Answer TaskInfo)} {last : Option TaskInfo}
    {time : Nat} {r : StatusRun} (h : StatusPolls o script last time r) (hpoll : 0 < o.poll)
    {e : Timed Event} (he : e ∈ r.events) (hfinished : e.what.isFinished) : e.time < o.cancel := by
  rw [(h.reports hpoll).1, List.mem_flatMap] at he
  obtain ⟨i, -, he⟩ := he
  obtain he | he := List.mem_append.1 he
  · rw [(Answer.of_mem_statusEvents he).2] at hfinished
    contradiction
  · obtain ⟨status, -, hcancel, rfl⟩ := Answer.mem_announcement_iff.1 he
    exact hcancel

theorem StatusPolls.call_lt {script : Script (Answer TaskInfo)} {last : Option TaskInfo}
    {time : Nat} {r : StatusRun} (h : StatusPolls o script last time r) (hpoll : 0 < o.poll)
    {call : Nat} (hcall : call ∈ r.calls) : call < o.cancel := by
  obtain ⟨i, hi, rfl⟩ := h.mem_calls_iff.1 hcall
  exact ((h.made_iff hpoll i).1 hi).2

theorem run_windsDown (hpoll : 0 < o.poll) (statuses : Script (Answer TaskInfo))
    (logs : Script (Answer LogChunk)) : WindsDown o statuses logs (run o statuses logs) := by
  have hs := statusSide_polls o statuses
  have hl := logSide_polls o statuses logs
  have hstatusCalls : (run o statuses logs).statusCalls = (statusSide o statuses).calls := rfl
  have hlogCalls : (run o statuses logs).logCalls = (logSide o statuses logs).calls := rfl
  refine ⟨fun call hcall => hs.call_lt hpoll hcall,
    fun call hcall => (hl.of_mem_calls hpoll hcall).1, ?_, ?_, ?_, ?_⟩
  · intro e he hfinished
    rw [events_run, mem_weave] at he
    obtain he | he := he
    · exact hs.finished_lt hpoll he hfinished
    · rw [hl.not_finished e he] at hfinished
      contradiction
  · rw [hstatusCalls, hs.calls_eq]
    exact length_inFlight_due statuses 0 hpoll o.cancel _
  · rw [hlogCalls, hl.times_eq]
    exact length_inFlight_due logs 0 hpoll o.cancel _
  · have hperm := (weave_perm true (sharedTurns o statuses logs) (statusSide o statuses).events
      (logSide o statuses logs).events).filter (o.cancel ≤ ·.time)
    rw [List.filter_append, hs.late_events hpoll] at hperm
    exact ⟨_, hl.late_events_sublist hpoll, hperm⟩

/-- Cancelling only truncates: before that time the run is the same as one that is cancelled later,
and after it the run winds down. -/
theorem cancellation_truncates (hpoll : 0 < o.poll) (statuses : Script (Answer TaskInfo))
    (logs : Script (Answer LogChunk)) {later : Nat} (hlater : o.cancel ≤ later) :
    AgreeBefore o.cancel (run o statuses logs) (run { o with cancel := later } statuses logs) ∧
      WindsDown o statuses logs (run o statuses logs) :=
  ⟨run_agreeBefore statuses logs hpoll (by omega), run_windsDown hpoll statuses logs⟩

theorem thirdEnds_cancelled_early :
    0 < ({ cancel := 1020 } : Options).poll ∧ 1020 ≤ 60051 ∧
      (run { cancel := 1020 } thirdEnds slowFailure).events.filter (·.time < 1020) =
        (run { cancel := 60051 } thirdEnds slowFailure).events.filter (·.time < 1020) ∧
      ∀ call ∈ (run { cancel := 1020 } thirdEnds slowFailure).statusCalls, call < 1020 := by
  have hpoll : 0 < ({ cancel := 1020 } : Options).poll := by decide
  have hlater : ({ cancel := 1020 } : Options).cancel ≤ 60051 := by decide
  obtain ⟨hbefore, hafter⟩ := cancellation_truncates hpoll thirdEnds slowFailure hlater
  exact ⟨hpoll, hlater, hbefore.events, hafter.statusCalls_lt⟩

end DeployWizard.Monitor
