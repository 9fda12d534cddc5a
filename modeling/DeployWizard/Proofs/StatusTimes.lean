import DeployWizard.Proofs.Interleaving
import DeployWizard.Proofs.StreamEnd
import DeployWizard.Proofs.Timetable

set_option autoImplicit false

namespace DeployWizard.Monitor

/-- Whether an event tells of the task; only the status side sends these. -/
def Event.isTask : Event → Bool
  | .progress _ | .status _ | .finished _ => true
  | .log _ | .error _ => false

instance (script : Script (Answer TaskInfo)) (i : Nat) : Decidable (Unended script i) :=
  inferInstanceAs (Decidable (∀ j < i, (script.get j).ending? = none))

variable {o : Options}

theorem Answer.not_task_of_mem_logEvents {a : Answer LogChunk} {time : Nat} {e : Timed Event}
    (h : e ∈ a.logEvents time) : e.what.isTask = false := by
  unfold logEvents at h
  split at h
  · split at h
    · cases h
    · rw [List.mem_singleton.1 h]; rfl
  · rw [List.mem_singleton.1 h]; rfl

theorem LogPolls.not_task {ended : Option Nat} {script : Script (Answer LogChunk)}
    {offset : UInt64} {time : Nat} {r : LogRun} (h : LogPolls o ended script offset time r) :
    ∀ e ∈ r.events, e.what.isTask = false := by
  induction h with
  | quiet => simp
  | dropped => simp
  | stopped => exact fun e he => Answer.not_task_of_mem_logEvents he
  | again _ _ _ _ _ ih =>
    intro e he
    obtain he | he := List.mem_append.1 he
    · exact Answer.not_task_of_mem_logEvents he
    · exact ih e he

theorem Answer.mem_announcement_iff {a : Answer TaskInfo} {time : Nat} {e : Timed Event} :
    e ∈ a.announcement o time ↔ ∃ status, a.ending? = some status ∧
      time + o.finishDelay < o.cancel ∧ e = ⟨time + o.finishDelay, .finished status⟩ := by
  unfold announcement
  cases a.ending? with
  | none => simp
  | some status =>
    by_cases hcut : o.cancel ≤ time + o.finishDelay
    · simp [hcut]
    · simp [hcut, Nat.lt_of_not_le hcut]

theorem StatusPolls.finished_mem_iff {script : Script (Answer TaskInfo)} {last : Option TaskInfo}
    {time : Nat} {r : StatusRun} (h : StatusPolls o script last time r) (hpoll : 0 < o.poll)
    {t : Nat} {status : InstallStatus} :
    ⟨t, .finished status⟩ ∈ r.events ↔ ∃ i < r.calls.length,
      (script.get i).ending? = some status ∧
        answeredAt o.poll script time i + o.finishDelay < o.cancel ∧
        t = answeredAt o.poll script time i + o.finishDelay := by
  rw [(h.reports hpoll).1, List.mem_flatMap]
  refine exists_congr fun i => ?_
  rw [List.mem_range, statusReport, List.mem_append, Answer.mem_announcement_iff]
  refine and_congr_right fun _ => ?_
  constructor
  · rintro (he | ⟨s, hend, hcancel, he⟩)
    · simpa [Event.isFinished] using (Answer.of_mem_statusEvents he).2
    · injection he with htime hwhat
      injection hwhat with hstatus
      exact ⟨hstatus ▸ hend, hcancel, htime⟩
  · rintro ⟨hend, hcancel, rfl⟩
    exact Or.inr ⟨status, hend, hcancel, rfl⟩

section Run
variable (statuses : Script (Answer TaskInfo)) (logs : Script (Answer LogChunk))

theorem statusCalls_getElem?_iff (hpoll : 0 < o.poll) (i t : Nat) :
    (run o statuses logs).statusCalls[i]? = some t ↔
      Unended statuses i ∧ due o.poll statuses 0 i < o.cancel ∧ t = due o.poll statuses 0 i := by
  have hs := statusSide_polls o statuses
  have hcalls : (run o statuses logs).statusCalls[i]? =
      if i < (statusSide o statuses).calls.length then some (due o.poll statuses 0 i)
      else none := by
    change (statusSide o statuses).calls[i]? = _
    rw [hs.calls_eq, List.getElem?_map, List.length_map, List.length_range]
    split
    next hi => rw [List.getElem?_range hi, Option.map_some]
    next hi => rw [List.getElem?_eq_none (by simpa using hi), Option.map_none]
  rw [hcalls, Option.ite_none_right_eq_some, hs.made_iff hpoll, and_assoc, Option.some.injEq,
    eq_comm (a := t)]

theorem statusEvents_sublist_events (hpoll : 0 < o.poll) :
    ((List.range (run o statuses logs).statusCalls.length).flatMap fun i =>
        (statuses.get i).statusEvents (answeredAt o.poll statuses 0 i)).Sublist
      (run o statuses logs).events := by
  have hside := ((statusSide_polls o statuses).reports hpoll).1
  have hreported : ((List.range (statusSide o statuses).calls.length).flatMap fun i =>
      (statuses.get i).statusEvents (answeredAt o.poll statuses 0 i)).Sublist
        (statusSide o statuses).events := by
    rw [hside]
    exact flatMap_sublist fun i _ => List.sublist_append_left _ _
  rw [events_run]
  exact hreported.trans (sublist_weave _ _ _ _).1

theorem filter_isTask_events :
    (run o statuses logs).events.filter (·.what.isTask) =
      (statusSide o statuses).events.filter (·.what.isTask) := by
  rw [events_run]
  exact filter_weave (logSide_polls o statuses logs).not_task

theorem finished_mem_events_iff (hpoll : 0 < o.poll) (t : Nat) (status : InstallStatus) :
    ⟨t, .finished status⟩ ∈ (run o statuses logs).events ↔
      ∃ k < (run o statuses logs).statusCalls.length, Unended statuses k ∧
        (statuses.get k).ending? = some status ∧
        answeredAt o.poll statuses 0 k + o.finishDelay < o.cancel ∧
        t = answeredAt o.poll statuses 0 k + o.finishDelay := by
  have hs := statusSide_polls o statuses
  have hlog : ⟨t, .finished status⟩ ∉ (logSide o statuses logs).events := by
    intro he
    have hnot := (logSide_polls o statuses logs).not_task _ he
    contradiction
  rw [events_run, mem_weave, or_iff_left hlog, hs.finished_mem_iff hpoll]
  refine exists_congr fun k => and_congr_right fun hk => ?_
  rw [and_iff_right ((hs.made_iff hpoll k).1 hk).1]

end Run

/-- The polls of the status are made when they are due, up to the one that ends the task and until
the monitor is cancelled; each is reported when it is answered, and the end is announced a delay
later, if the monitor is not cancelled by then. The log has no part in it. -/
theorem status_side_keeps_timetable (hpoll : 0 < o.poll) (statuses : Script (Answer TaskInfo))
    (logs : Script (Answer LogChunk)) :
    (∀ i t, (run o statuses logs).statusCalls[i]? = some t ↔
        Unended statuses i ∧ due o.poll statuses 0 i < o.cancel ∧
          t = due o.poll statuses 0 i) ∧
      (((List.range (run o statuses logs).statusCalls.length).flatMap fun i =>
          (statuses.get i).statusEvents (answeredAt o.poll statuses 0 i)).Sublist
        (run o statuses logs).events) ∧
      ((run o statuses logs).events.filter (·.what.isTask) =
        ((List.range (run o statuses logs).statusCalls.length).flatMap
          (statusReport o statuses 0)).filter (·.what.isTask)) ∧
      (∀ t status, ⟨t, .finished status⟩ ∈ (run o statuses logs).events ↔
        ∃ k < (run o statuses logs).statusCalls.length, Unended statuses k ∧
          (statuses.get k).ending? = some status ∧
          answeredAt o.poll statuses 0 k + o.finishDelay < o.cancel ∧
          t = answeredAt o.poll statuses 0 k + o.finishDelay) ∧
      ∀ logs', (run o statuses logs').statusCalls = (run o statuses logs).statusCalls ∧
        (run o statuses logs').events.filter (·.what.isTask) =
          (run o statuses logs).events.filter (·.what.isTask) ∧
        (run o statuses logs').outcome.status = (run o statuses logs).outcome.status ∧
        (run o statuses logs').outcome.lastTask = (run o statuses logs).outcome.lastTask ∧
        (run o statuses logs').outcome.cancelled = (run o statuses logs).outcome.cancelled := by
  refine ⟨statusCalls_getElem?_iff statuses logs hpoll,
    statusEvents_sublist_events statuses logs hpoll, ?_,
    finished_mem_events_iff statuses logs hpoll, ?_⟩
  · rw [filter_isTask_events, ((statusSide_polls o statuses).reports hpoll).1]
    rfl
  · intro logs'
    have htask := (filter_isTask_events (o := o) statuses logs').trans
      (filter_isTask_events statuses logs).symm
    exact ⟨rfl, htask, rfl, rfl, rfl⟩

def thirdEnds : Script (Answer TaskInfo) :=
  ⟨[⟨10, .error (.network "connection reset")⟩,
    ⟨20, .ok { status := .running, finished := 1, total := 2 }⟩],
    ⟨30, .ok { status := .successful, finished := 2, total := 2 }⟩⟩

def quickLog : Script (Answer LogChunk) :=
  ⟨[], ⟨0, .ok { log := "ok", offset := 2 }⟩⟩

theorem thirdEnds_keeps_timetable :
    0 < ({ cancel := 60051 } : Options).poll ∧
      (run { cancel := 60051 } thirdEnds slowFailure).statusCalls[2]? = some 2030 ∧
      (∀ t, (run { cancel := 60051 } thirdEnds slowFailure).statusCalls[3]? ≠ some t) ∧
      ⟨4060, .finished .successful⟩ ∈ (run { cancel := 60051 } thirdEnds slowFailure).events ∧
      (run { cancel := 60051 } thirdEnds slowFailure).outcome.status =
        (run { cancel := 60051 } thirdEnds quickLog).outcome.status := by
  obtain ⟨hcalls, -, -, hfinished, hlogs⟩ :=
    status_side_keeps_timetable (o := { cancel := 60051 }) (by decide) thirdEnds slowFailure
  have hthird := (hcalls 2 2030).2 (by decide)
  have hmade := (List.getElem?_eq_some_iff.1 hthird).1
  refine ⟨by decide, hthird, ?_, ?_, (hlogs quickLog).2.2.1.symm⟩
  · intro t hfourth
    exact absurd ((hcalls 3 t).1 hfourth).1 (by decide)
  · exact (hfinished 4060 .successful).2 ⟨2, hmade, by decide⟩

end DeployWizard.Monitor
