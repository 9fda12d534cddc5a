import Mathlib.Data.List.Basic
import DeployWizard.Proofs.Polling

set_option autoImplicit false

/-!
What follows the announcement that a task has ended. The log side makes no new poll once the end is
seen, but the one it is at may still fail after the announcement, and the failure is reported.
-/
namespace DeployWizard.Monitor

def statusSide (o : Options) (statuses : Script (Answer TaskInfo)) : StatusRun :=
  followStatus o statuses none 0

def logSide (o : Options) (statuses : Script (Answer TaskInfo))
    (logs : Script (Answer LogChunk)) : LogRun :=
  followLog o (seenAt o (statusSide o statuses) logs) logs 0 0

def sharedTurns (o : Options) (statuses : Script (Answer TaskInfo))
    (logs : Script (Answer LogChunk)) : List Nat :=
  turns (statusSide o statuses).wakes (logSide o statuses logs).wakes

variable {o : Options} {statuses : Script (Answer TaskInfo)} {logs : Script (Answer LogChunk)}

theorem events_run (o : Options) (statuses : Script (Answer TaskInfo))
    (logs : Script (Answer LogChunk)) :
    (run o statuses logs).events = weave true (sharedTurns o statuses logs)
      (statusSide o statuses).events (logSide o statuses logs).events :=
  rfl

theorem statusSide_polls (o : Options) (statuses : Script (Answer TaskInfo)) :
    StatusPolls o statuses none 0 (statusSide o statuses) :=
  followStatus_polls o statuses none 0

theorem logSide_polls (o : Options) (statuses : Script (Answer TaskInfo))
    (logs : Script (Answer LogChunk)) :
    LogPolls o (seenAt o (statusSide o statuses) logs) logs 0 0 (logSide o statuses logs) :=
  followLog_polls o _ logs 0 0

theorem mem_sharedTurns (logs : Script (Answer LogChunk)) {t : Nat}
    (h : t ∈ 0 :: (statusSide o statuses).wakes ∨ t ∈ 0 :: (logSide o statuses logs).wakes) :
    t ∈ sharedTurns o statuses logs :=
  mem_turns (List.pairwise_cons.1 (statusSide_polls o statuses).wellTimed.ordered).2
    (List.pairwise_cons.1 (logSide_polls o statuses logs).wellTimed.ordered).2 h

theorem seenAt_of_ended (logs : Script (Answer LogChunk)) {ended : Nat}
    (h : (statusSide o statuses).ended = some ended) :
    ∃ seen, seenAt o (statusSide o statuses) logs = some seen ∧
      ended ≤ seen ∧ seen ≤ ended + 1 := by
  rw [seenAt, h, Option.map_some]
  refine ⟨_, rfl, ?_⟩
  dsimp only
  split <;> omega

def lateFailure (o : Options) (statuses : Script (Answer TaskInfo))
    (logs : Script (Answer LogChunk)) (finish : Nat) : List (Timed Event) :=
  ((logSide o statuses logs).lastFailure logs).filter
    (comesAfter true (sharedTurns o statuses logs) finish)

theorem lateFailure_eq {ended : Nat} (hended : (statusSide o statuses).ended = some ended)
    (hdelay : 0 < o.finishDelay) :
    (logSide o statuses logs).events.filter
        (comesAfter true (sharedTurns o statuses logs) (ended + o.finishDelay)) =
      lateFailure o statuses logs (ended + o.finishDelay) := by
  obtain ⟨seen, hseen, -, hle⟩ := seenAt_of_ended logs hended
  have hpolls := logSide_polls o statuses logs
  rw [hseen] at hpolls
  apply hpolls.late_events
  intro e he
  have hfinish := le_of_comesAfter he
  omega

/-- A run announces the end once or not at all, and only a late failure follows. -/
theorem events_announcement (statuses : Script (Answer TaskInfo))
    (logs : Script (Answer LogChunk)) (hdelay : 0 < o.finishDelay) :
    (∀ e ∈ (run o statuses logs).events, e.what.isFinished = false) ∨
      ∃ finish status before,
        (run o statuses logs).events =
          before ++ ⟨finish, .finished status⟩ :: lateFailure o statuses logs finish ∧
        ∀ e ∈ before, e.what.isFinished = false := by
  obtain ⟨polled, hpolled, hside⟩ := (statusSide_polls o statuses).announcement
  have hlog := (logSide_polls o statuses logs).not_finished
  obtain ⟨-, hevents⟩ | ⟨ended, status, hended, -, -, hevents⟩ := hside
  · left
    intro e he
    rw [events_run, mem_weave, hevents] at he
    exact he.elim (hpolled e) (hlog e)
  · right
    have hstatusTimed := (statusSide_polls o statuses).wellTimed
    have hlogTimed := (logSide_polls o statuses logs).wellTimed
    have hlast : ⟨ended + o.finishDelay, .finished status⟩ ∈ (statusSide o statuses).events := by
      simp [hevents]
    have hannounced := mem_sharedTurns logs (Or.inl (hstatusTimed.awake _ hlast))
    obtain ⟨before, hbefore, hsource⟩ := weave_announced
      (turns_pairwise (statusSide o statuses).wakes (logSide o statuses logs).wakes) true
      (hevents ▸ hstatusTimed.chronological) hlogTimed.chronological hannounced
      (fun e he => mem_sharedTurns logs (Or.inr (hlogTimed.awake e he)))
    refine ⟨ended + o.finishDelay, status, before, ?_, ?_⟩
    · rw [events_run, hevents, ← lateFailure_eq hended hdelay]
      exact hbefore
    · intro e he
      exact (hsource e he).elim (hpolled e) (hlog e)

def lastLogAnswer (o : Options) (statuses : Script (Answer TaskInfo))
    (logs : Script (Answer LogChunk)) : Answer LogChunk :=
  logs.get ((run o statuses logs).logCalls.length - 1)

/-- The last poll of the log fails after an announcement at a time: later, or at the same time in a
turn that the status side leads. -/
structure FailsLate (o : Options) (statuses : Script (Answer TaskInfo))
    (logs : Script (Answer LogChunk)) (finish : Nat) (call : Timed UInt64) (error : Service.Error) :
    Prop where
  last : (run o statuses logs).logCalls.getLast? = some call
  failed : (lastLogAnswer o statuses logs).result = .error error
  late : finish < call.time + (lastLogAnswer o statuses logs).delay ∨
    call.time + (lastLogAnswer o statuses logs).delay = finish ∧
      statusLeads (sharedTurns o statuses logs) finish

theorem lateFailure_of_failsLate {finish : Nat} {call : Timed UInt64} {error : Service.Error}
    (h : FailsLate o statuses logs finish call error) :
    lateFailure o statuses logs finish =
      [⟨call.time + (lastLogAnswer o statuses logs).delay, .error error.message⟩] := by
  have hlast : (logSide o statuses logs).lastFailure logs =
      [⟨call.time + (lastLogAnswer o statuses logs).delay, .error error.message⟩] :=
    LogRun.lastFailure_of_error h.last h.failed
  rw [lateFailure, hlast]
  apply List.filter_cons_of_pos
  simpa [comesAfter] using h.late

theorem failsLate_of_mem {finish : Nat} {e : Timed Event}
    (h : e ∈ lateFailure o statuses logs finish) :
    ∃ call error, FailsLate o statuses logs finish call error := by
  obtain ⟨he, hlate⟩ := List.mem_filter.1 h
  obtain ⟨call, error, hlast, hfailed, htime⟩ := LogRun.error_of_mem_lastFailure he
  refine ⟨call, error, hlast, hfailed, ?_⟩
  have hlate : finish < e.time ∨
      e.time = finish ∧ statusLeads (sharedTurns o statuses logs) finish := by
    simpa [comesAfter] using hlate
  rwa [htime] at hlate

theorem not_finished_of_mem_lateFailure {finish : Nat} {e : Timed Event}
    (h : e ∈ lateFailure o statuses logs finish) : e.what.isFinished = false := by
  obtain ⟨call, error, hfails⟩ := failsLate_of_mem h
  rw [lateFailure_of_failsLate hfails, List.mem_singleton] at h
  rw [h]
  rfl

/-- Nothing follows the announcement, unless the last poll of the log fails after it; then just that
failure does. -/
theorem closed_iff_not_failsLate (hdelay : 0 < o.finishDelay) {before after : List (Timed Event)}
    {finish : Nat} {status : InstallStatus}
    (h : (run o statuses logs).events = before ++ ⟨finish, .finished status⟩ :: after) :
    (after = [] ↔ ¬∃ call error, FailsLate o statuses logs finish call error) ∧
      ∀ call error, FailsLate o statuses logs finish call error →
        after = [⟨call.time + (lastLogAnswer o statuses logs).delay, .error error.message⟩] := by
  have hafter : after = lateFailure o statuses logs finish := by
    obtain hnone | ⟨finish', status', before', hevents, hbefore⟩ :=
      events_announcement statuses logs hdelay
    · have hfinished := hnone ⟨finish, .finished status⟩ (by simp [h])
      simp [Event.isFinished] at hfinished
    · rw [hevents] at h
      have hother : ∀ e : Timed Event, e.what.isFinished = false →
          e ≠ ⟨finish, .finished status⟩ := by
        rintro e he rfl
        simp [Event.isFinished] at he
      -- There is one announcement, so both ways to split the events at one are the same.
      obtain ⟨-, hsame, hafter⟩ := (List.append_cons_inj_of_notMem
        (fun hmem => hother _ (hbefore _ hmem) rfl)
        (fun hmem => hother _ (not_finished_of_mem_lateFailure hmem) rfl)).1 h
      injection hsame with hfinish
      rw [← hfinish, hafter]
  refine ⟨⟨?_, ?_⟩, ?_⟩
  · rintro hclosed ⟨call, error, hfails⟩
    rw [hafter, lateFailure_of_failsLate hfails] at hclosed
    exact List.cons_ne_nil _ _ hclosed
  · intro hnone
    rw [hafter, List.eq_nil_iff_forall_not_mem]
    intro e he
    exact hnone (failsLate_of_mem he)
  · intro call error hfails
    rw [hafter, lateFailure_of_failsLate hfails]

def quickEnd : Script (Answer TaskInfo) :=
  ⟨[], ⟨10, .ok { status := .successful, finished := 1, total := 1 }⟩⟩

def slowFailure : Script (Answer LogChunk) :=
  ⟨[], ⟨5000, .error (.network "connection reset")⟩⟩

theorem statusSide_quickEnd :
    statusSide { cancel := 60051 } quickEnd =
      ⟨[0], quickEnd.after.statusEvents 10 ++ [⟨2010, .finished .successful⟩], [], some 10,
        some .successful, quickEnd.after.task?, [10, 2010], 2010⟩ := by
  have hend : quickEnd.next.1.ending? = some .successful := rfl
  rw [statusSide, followStatus]
  simp only [hend]
  simp [quickEnd, Script.next, Options.pause, Answer.recorded]

theorem logSide_slowFailure :
    logSide { cancel := 60051 } quickEnd slowFailure =
      ⟨[⟨0, 0⟩], slowFailure.after.logEvents 5000, slowFailure.after.recorded 5000, [5000, 6000],
        6000⟩ := by
  obtain ⟨seen, hseen, hfrom, hto⟩ := seenAt_of_ended slowFailure
    (congrArg StatusRun.ended statusSide_quickEnd)
  have hgoing : seen ≠ 0 := by omega
  have hover : seen ≤ 6000 := by omega
  have hrest : followLog { cancel := 60051 } (some seen) slowFailure 0 6000 =
      ⟨[], [], [], [], 6000⟩ := by
    rw [followLog]
    simp [endedBy, hover]
  have hnext : slowFailure.next = (slowFailure.after, slowFailure) := rfl
  have hdelay : slowFailure.after.delay = 5000 := rfl
  have hfailed : slowFailure.after.isOk = false := rfl
  have hoffset : slowFailure.after.offsetAfter 0 = 0 := rfl
  rw [logSide, hseen, followLog]
  simp [hnext, hdelay, hfailed, hoffset, hrest, hgoing, endedBy, Options.pause]

theorem events_slowFailure :
    (run { cancel := 60051 } quickEnd slowFailure).events =
      quickEnd.after.statusEvents 10 ++
        ⟨2010, .finished .successful⟩ :: slowFailure.after.logEvents 5000 := by
  rw [events_run, sharedTurns, statusSide_quickEnd, logSide_slowFailure]
  simp [turns, distinctAfter, weave, quickEnd, slowFailure, Answer.statusEvents, Answer.logEvents]

theorem slowFailure_failsLate :
    ∃ call error, FailsLate { cancel := 60051 } quickEnd slowFailure 2010 call error := by
  have hclosed := (closed_iff_not_failsLate (by decide) events_slowFailure).1
  by_contra hnone
  exact absurd (hclosed.2 hnone) (List.cons_ne_nil _ _)

theorem announcement_not_last :
    ¬∀ (o : Options) (statuses : Script (Answer TaskInfo)) (logs : Script (Answer LogChunk))
      (before after : List (Timed Event)) (finish : Nat) (status : InstallStatus),
      0 < o.poll → 0 < o.finishDelay →
        (run o statuses logs).events = before ++ ⟨finish, .finished status⟩ :: after →
          after = [] := by
  intro hlast
  have hnone := hlast _ _ _ _ _ _ _ (by decide) (by decide) events_slowFailure
  exact absurd hnone (List.cons_ne_nil _ _)

end DeployWizard.Monitor
