import DeployWizard.Proofs.Pairing

set_option autoImplicit false

namespace DeployWizard.Monitor

def Event.task? : Event → Option TaskInfo
  | .status task => some task
  | _ => none

def Event.finished? : Event → Option InstallStatus
  | .finished ending => some ending
  | _ => none

def Event.message? : Event → Option String
  | .error message => some message
  | _ => none

def Event.isLog : Event → Bool
  | .log _ => true
  | _ => false

def Event.endsTask (e : Event) : Bool :=
  e.task?.any (·.status.isTerminal)

theorem Event.task?_of_not_task {e : Event} (h : e.isTask = false) : e.task? = none := by
  cases e with
  | progress | status | finished => contradiction
  | log | error => rfl

theorem Event.finished?_of_not_finished {e : Event} (h : e.isFinished = false) :
    e.finished? = none := by
  cases e with
  | finished => contradiction
  | progress | status | log | error => rfl

def Answer.failure? {α : Type} (a : Answer α) : Option String :=
  match a.result with
  | .ok _ => none
  | .error e => some e.message

variable {o : Options}

theorem StatusPolls.finished_eq {script : Script (Answer TaskInfo)} {last : Option TaskInfo}
    {time : Nat} {r : StatusRun} (h : StatusPolls o script last time r) :
    r.events.filterMap (·.what.finished?) = r.status.toList := by
  obtain ⟨polled, hpolled, hevents⟩ := h.announcement
  have hnone : polled.filterMap (·.what.finished?) = [] :=
    List.filterMap_eq_nil_iff.2 fun e he => Event.finished?_of_not_finished (hpolled e he)
  obtain ⟨hstatus, hevents⟩ | ⟨ended, status, -, hstatus, -, hevents⟩ := hevents
  · rw [hevents, hnone, hstatus]
    rfl
  · rw [hevents, List.filterMap_append, hnone, hstatus]
    rfl

theorem Answer.filterMap_task?_statusEvents (a : Answer TaskInfo) (time : Nat) :
    (a.statusEvents time).filterMap (·.what.task?) = a.task?.toList := by
  unfold statusEvents task?
  cases a.result with
  | ok task => rfl
  | error e => rfl

theorem StatusPolls.last_eq {script : Script (Answer TaskInfo)} {last : Option TaskInfo}
    {time : Nat} {r : StatusRun} (h : StatusPolls o script last time r) :
    r.last = ((r.events.filterMap (·.what.task?)).getLast?).or last := by
  have hone : ∀ t : Option TaskInfo, t.toList.getLast? = t := fun t => by cases t <;> rfl
  induction h with
  | cancelled => rfl
  | silenced | stopped => rw [Answer.filterMap_task?_statusEvents, hone]
  | announced =>
    rw [List.filterMap_append, Answer.filterMap_task?_statusEvents, List.getLast?_append, hone]
    rfl
  | again _ _ _ _ ih =>
    rw [List.filterMap_append, Answer.filterMap_task?_statusEvents, List.getLast?_append, hone,
      Option.or_assoc]
    exact ih

section Recorded

def failureAt? (e : Timed Event) : Option (Timed String) :=
  e.what.message?.map fun message => ⟨e.time, message⟩

theorem time_of_mem_failureAt? (e : Timed Event) : ∀ y ∈ failureAt? e, y.time = e.time := by
  intro y hy
  obtain ⟨message, -, rfl⟩ := Option.map_eq_some_iff.1 hy
  rfl

theorem map_what_failureAt? (e : Timed Event) :
    (failureAt? e).map (·.what) = e.what.message? := by
  unfold failureAt?
  cases e.what.message? <;> rfl

theorem Answer.failureAt?_statusEvents (a : Answer TaskInfo) (time : Nat) :
    (a.statusEvents time).filterMap failureAt? = a.recorded time := by
  unfold statusEvents recorded
  cases a.result with
  | ok task => rfl
  | error e => rfl

theorem Answer.failureAt?_logEvents (a : Answer LogChunk) (time : Nat) :
    (a.logEvents time).filterMap failureAt? = a.recorded time := by
  unfold logEvents recorded
  cases a.result with
  | ok chunk =>
    dsimp only
    split <;> rfl
  | error e => rfl

theorem StatusPolls.recorded_eq {script : Script (Answer TaskInfo)} {last : Option TaskInfo}
    {time : Nat} {r : StatusRun} (h : StatusPolls o script last time r) :
    r.recorded = r.events.filterMap failureAt? := by
  induction h with
  | cancelled => rfl
  | silenced | stopped => exact (Answer.failureAt?_statusEvents _ _).symm
  | announced =>
    rw [List.filterMap_append, Answer.failureAt?_statusEvents]
    exact (List.append_nil _).symm
  | again _ _ _ _ ih => rw [List.filterMap_append, Answer.failureAt?_statusEvents, ih]

theorem LogPolls.recorded_eq {ended : Option Nat} {script : Script (Answer LogChunk)}
    {offset : UInt64} {time : Nat} {r : LogRun} (h : LogPolls o ended script offset time r) :
    r.recorded = r.events.filterMap failureAt? := by
  induction h with
  | quiet | dropped => rfl
  | stopped => exact (Answer.failureAt?_logEvents _ _).symm
  | again _ _ _ _ _ ih => rw [List.filterMap_append, Answer.failureAt?_logEvents, ih]

theorem errors_run (o : Options) (statuses : Script (Answer TaskInfo))
    (logs : Script (Answer LogChunk)) :
    (run o statuses logs).outcome.errors =
      (weave true (sharedTurns o statuses logs) (statusSide o statuses).recorded
        (logSide o statuses logs).recorded).map (·.what) :=
  rfl

/-- Both sides record their failures in the order in which they report them. -/
theorem errors_eq_messages (o : Options) (statuses : Script (Answer TaskInfo))
    (logs : Script (Answer LogChunk)) :
    (run o statuses logs).outcome.errors =
      (run o statuses logs).events.filterMap (·.what.message?) := by
  have hturns := turns_run o statuses logs
  rw [errors_run, (statusSide_polls o statuses).recorded_eq,
    (logSide_polls o statuses logs).recorded_eq, ← weave_filterMap hturns time_of_mem_failureAt?,
    ← events_run, List.map_filterMap]
  simp only [map_what_failureAt?]

end Recorded

section Failures
variable {α : Type}

def failures (script : Script (Answer α)) (n : Nat) : List String :=
  (List.range n).filterMap fun i => (script.get i).failure?

theorem failures_eq_messages {script : Script (Answer α)} {n : Nat}
    {report : Nat → List (Timed Event)}
    (h : ∀ i, (report i).filterMap (·.what.message?) = ((script.get i).failure?).toList) :
    ((List.range n).flatMap report).filterMap (·.what.message?) = failures script n := by
  rw [List.filterMap_flatMap, failures, List.filterMap_eq_flatMap_toList]
  exact List.flatMap_congr fun i _ => h i

end Failures

theorem messages_statusReport (script : Script (Answer TaskInfo)) (start i : Nat) :
    (statusReport o script start i).filterMap (·.what.message?) =
      ((script.get i).failure?).toList := by
  have hannounced : ∀ time,
      ((script.get i).announcement o time).filterMap (·.what.message?) = [] := by
    intro time
    rw [List.filterMap_eq_nil_iff]
    intro e he
    obtain ⟨status, -, -, rfl⟩ := Answer.mem_announcement_iff.1 he
    rfl
  rw [statusReport, List.filterMap_append, hannounced, List.append_nil, Answer.statusEvents,
    Answer.failure?]
  cases (script.get i).result with
  | ok task => rfl
  | error e => rfl

theorem messages_logReport (ended : Option Nat) (script : Script (Answer LogChunk))
    (start i : Nat) :
    (logReport o ended script start i).filterMap (·.what.message?) =
      ((script.get i).failure?).toList := by
  unfold logReport Answer.isDropped Answer.isOk Answer.logEvents Answer.failure?
  cases (script.get i).result with
  | ok chunk =>
    dsimp only
    split
    · rfl
    · split <;> rfl
  | error e => rfl

/-- A list is made of two others, each in its order. -/
structure Interleaves {α : Type} (xs ys l : List α) : Prop where
  left : xs.Sublist l
  right : ys.Sublist l
  perm : l.Perm (xs ++ ys)

theorem messages_interleave (hpoll : 0 < o.poll) (statuses : Script (Answer TaskInfo))
    (logs : Script (Answer LogChunk)) :
    Interleaves (failures statuses (run o statuses logs).statusCalls.length)
      (failures logs (run o statuses logs).logCalls.length)
      ((run o statuses logs).events.filterMap (·.what.message?)) := by
  have hstatus : (statusSide o statuses).events.filterMap (·.what.message?) =
      failures statuses (statusSide o statuses).calls.length := by
    rw [((statusSide_polls o statuses).reports hpoll).1]
    exact failures_eq_messages (messages_statusReport statuses 0)
  have hlog : (logSide o statuses logs).events.filterMap (·.what.message?) =
      failures logs (logSide o statuses logs).calls.length := by
    rw [((logSide_polls o statuses logs).reports hpoll).1]
    exact failures_eq_messages (messages_logReport _ logs 0)
  obtain ⟨hleft, hright⟩ := sublist_weave true (sharedTurns o statuses logs)
    (statusSide o statuses).events (logSide o statuses logs).events
  have hperm := (weave_perm true (sharedTurns o statuses logs) (statusSide o statuses).events
    (logSide o statuses logs).events).filterMap (·.what.message?)
  rw [List.filterMap_append, hstatus, hlog] at hperm
  exact ⟨hstatus ▸ hleft.filterMap _, hlog ▸ hright.filterMap _, hperm⟩

theorem Answer.ending_of_mem_statusEvents {a : Answer TaskInfo} {time : Nat} {e : Timed Event}
    (he : e ∈ a.statusEvents time) (hends : e.what.endsTask) :
    ∃ task, a.result = .ok task ∧ a.ending? = some task.status ∧ e = ⟨time, .status task⟩ := by
  unfold statusEvents at he
  split at he
  next task hresult =>
    obtain rfl | rfl : e = _ ∨ e = _ := by simpa using he
    · contradiction
    · have hterminal : task.status.isTerminal := by simpa [Event.endsTask, Event.task?] using hends
      refine ⟨task, hresult, ?_, rfl⟩
      simp [ending?, task?, hresult, Except.toOption, hterminal]
  next =>
    rw [List.mem_singleton.1 he] at hends
    contradiction

/-- After a status that ends the task there is no status, and no piece of log. -/
def EndsLast (x y : Timed Event) : Prop :=
  x.what.endsTask → y.what.task? = none ∧ y.what.isLog = false

theorem Answer.statusEvents_endsLast (a : Answer TaskInfo) (time : Nat) :
    (a.statusEvents time).Pairwise EndsLast := by
  unfold statusEvents
  split
  · refine List.pairwise_pair.2 ?_
    intro hends
    contradiction
  · exact List.pairwise_singleton _ _

theorem StatusPolls.endsLast {script : Script (Answer TaskInfo)} {last : Option TaskInfo}
    {time : Nat} {r : StatusRun} (h : StatusPolls o script last time r) :
    r.events.Pairwise EndsLast := by
  induction h with
  | cancelled => exact List.Pairwise.nil
  | silenced | stopped => exact Answer.statusEvents_endsLast _ _
  | announced =>
    refine List.pairwise_append.2
      ⟨Answer.statusEvents_endsLast _ _, List.pairwise_singleton _ _, ?_⟩
    intro x _ y hy _
    rw [List.mem_singleton.1 hy]
    exact ⟨rfl, rfl⟩
  | again _ hend _ _ ih =>
    refine List.pairwise_append.2 ⟨Answer.statusEvents_endsLast _ _, ih, ?_⟩
    intro x hx y _ hends
    obtain ⟨task, -, hending, -⟩ := Answer.ending_of_mem_statusEvents hx hends
    rw [hend] at hending
    contradiction

theorem StatusPolls.answer_of_endsTask {script : Script (Answer TaskInfo)}
    {last : Option TaskInfo} {time : Nat} {r : StatusRun} (h : StatusPolls o script last time r)
    (hpoll : 0 < o.poll) {e : Timed Event} (he : e ∈ r.events) (hends : e.what.endsTask) :
    ∃ i task, r.calls.length = i + 1 ∧ (script.get i).result = .ok task ∧
      (script.get i).ending? = some task.status ∧
      e = ⟨answeredAt o.poll script time i, .status task⟩ := by
  rw [(h.reports hpoll).1, List.mem_flatMap] at he
  obtain ⟨i, hi, he⟩ := he
  have hi : i < r.calls.length := List.mem_range.1 hi
  obtain he | he := List.mem_append.1 he
  · obtain ⟨task, hresult, hending, rfl⟩ := Answer.ending_of_mem_statusEvents he hends
    refine ⟨i, task, ?_, hresult, hending, rfl⟩
    -- Another poll would need all answers before it to leave the task going.
    by_contra hmore
    have hnext : i + 1 < r.calls.length := by omega
    have hnone := ((h.made_iff hpoll (i + 1)).1 hnext).1 i i.lt_add_one
    rw [hending] at hnone
    contradiction
  · obtain ⟨status, -, -, rfl⟩ := Answer.mem_announcement_iff.1 he
    contradiction

theorem StatusPolls.ended_of_endsTask {script : Script (Answer TaskInfo)}
    {last : Option TaskInfo} {time : Nat} {r : StatusRun} (h : StatusPolls o script last time r)
    (hpoll : 0 < o.poll) {e : Timed Event} (he : e ∈ r.events) (hends : e.what.endsTask) :
    r.ended = some e.time := by
  obtain ⟨i, task, hlength, -, hending, rfl⟩ := h.answer_of_endsTask hpoll he hends
  exact h.ended_eq_some_iff.2 ⟨i, by omega, by rw [hending]; rfl, rfl⟩

theorem Answer.isOk_of_isLog {a : Answer LogChunk} {time : Nat} {e : Timed Event}
    (he : e ∈ a.logEvents time) (hlog : e.what.isLog) : a.isOk := by
  unfold isOk
  unfold logEvents at he
  split at he
  next => rfl
  next =>
    rw [List.mem_singleton.1 he] at hlog
    contradiction

theorem LogPolls.unseen_of_isLog {ended : Option Nat} {script : Script (Answer LogChunk)}
    {offset : UInt64} {time : Nat} {r : LogRun} (h : LogPolls o ended script offset time r)
    (hpoll : 0 < o.poll) {e : Timed Event} (he : e ∈ r.events) (hlog : e.what.isLog) :
    endedBy ended e.time = false := by
  rw [(h.reports hpoll).1, List.mem_flatMap] at he
  obtain ⟨i, -, he⟩ := he
  rw [time_of_mem_logReport he]
  unfold logReport at he
  dsimp only at he
  split at he
  · cases he
  next hkept =>
    have hok := Answer.isOk_of_isLog he hlog
    simpa [Answer.isDropped, hok] using hkept

section Terminal
variable {statuses : Script (Answer TaskInfo)} {logs : Script (Answer LogChunk)}

/-- The end is not seen before it is there, nor in the turn of it if the log side leads. -/
theorem unseen_iff (hpoll : 0 < o.poll) {ended t : Nat}
    (hended : (statusSide o statuses).ended = some ended) :
    endedBy (seenAt o (statusSide o statuses) logs) t = false ↔
      t < ended ∨ t = ended ∧ statusLeads (sharedTurns o statuses logs) ended = false := by
  rw [seenAt_eq logs hpoll hended]
  cases statusLeads (sharedTurns o statuses logs) ended with
  | true => simp [endedBy]
  | false =>
    simp only [endedBy, Bool.false_eq_true, if_false, Option.any_some, decide_eq_false_iff_not,
      and_true]
    omega

theorem run_endsLast (hpoll : 0 < o.poll) (statuses : Script (Answer TaskInfo))
    (logs : Script (Answer LogChunk)) : (run o statuses logs).events.Pairwise EndsLast := by
  have hs := statusSide_polls o statuses
  have hl := logSide_polls o statuses logs
  have hlogEnds : ∀ e ∈ (logSide o statuses logs).events, ¬e.what.endsTask := by
    intro e he hends
    rw [Event.endsTask, Event.task?_of_not_task (hl.not_task e he)] at hends
    contradiction
  rw [events_run]
  refine weave_pairwise (turns_run o statuses logs) hs.endsLast ?_ ?_ ?_
  · exact List.pairwise_of_forall_mem_list fun x hx _ _ hends => absurd hends (hlogEnds x hx)
  · intro s hsmem l hlmem hafter hends
    have hended := hs.ended_of_endsTask hpoll hsmem hends
    refine ⟨Event.task?_of_not_task (hl.not_task l hlmem), ?_⟩
    by_contra hlog
    -- A piece that is not dropped came before the end was seen, so it cannot come after the status.
    have hunseen := hl.unseen_of_isLog hpoll hlmem (by simpa using hlog)
    rw [unseen_iff hpoll hended] at hunseen
    obtain hearly | ⟨hsame, hleads⟩ := hunseen
    · have hlate := le_of_comesAfter hafter
      omega
    · simp [comesAfter, hsame, hleads] at hafter
  · exact fun s _ l hlmem _ hends => absurd hends (hlogEnds l hlmem)

/-- What holds once a status that ends the task is sent at a time: no status before it ends the
task, none comes after it and no piece of log does; it answers the last poll of the status, and a
log poll that starts at the same time started before it. -/
structure Settled (o : Options) (statuses : Script (Answer TaskInfo))
    (logs : Script (Answer LogChunk)) (before : List (Timed Event)) (time : Nat) (task : TaskInfo)
    (after : List (Timed Event)) : Prop where
  first : ∀ e ∈ before, ¬e.what.endsTask
  last : ∀ e ∈ after, e.what.task? = none
  no_log : ∀ e ∈ after, e.what.isLog = false
  answers_last : ∃ i call, (run o statuses logs).statusCalls.length = i + 1 ∧
    (run o statuses logs).statusCalls.getLast? = some call ∧ call + (statuses.get i).delay = time ∧
    (statuses.get i).result = .ok task
  statusCalls_le : ∀ call ∈ (run o statuses logs).statusCalls, call ≤ time
  logCalls_before : ∀ call ∈ (run o statuses logs).logCalls, call.time < time ∨
    call.time = time ∧ statusLeads (sharedTurns o statuses logs) time = false

theorem mem_statusSide_of_isTask {e : Timed Event} (he : e ∈ (run o statuses logs).events)
    (htask : e.what.isTask) : e ∈ (statusSide o statuses).events := by
  rw [events_run, mem_weave] at he
  refine he.resolve_right fun hlog => ?_
  rw [(logSide_polls o statuses logs).not_task e hlog] at htask
  contradiction

theorem run_settled (hpoll : 0 < o.poll) {before after : List (Timed Event)} {time : Nat}
    {task : TaskInfo}
    (hsplit : (run o statuses logs).events = before ++ ⟨time, .status task⟩ :: after)
    (hterminal : task.status.isTerminal) : Settled o statuses logs before time task after := by
  have hs := statusSide_polls o statuses
  have hl := logSide_polls o statuses logs
  have hends : (Event.status task).endsTask := by
    simpa [Event.endsTask, Event.task?] using hterminal
  have hrun : ⟨time, .status task⟩ ∈ (run o statuses logs).events := by simp [hsplit]
  have hmem := mem_statusSide_of_isTask hrun rfl
  have hended := hs.ended_of_endsTask hpoll hmem hends
  obtain ⟨i, task', hlength, hresult, -, hevent⟩ := hs.answer_of_endsTask hpoll hmem hends
  injection hevent with htime htask
  injection htask with htask
  have hpairs := run_endsLast hpoll statuses logs
  rw [hsplit] at hpairs
  obtain ⟨-, hcons, hbefore⟩ := List.pairwise_append.1 hpairs
  have hafter := (List.pairwise_cons.1 hcons).1
  refine ⟨?_, fun e he => (hafter e he hends).1, fun e he => (hafter e he hends).2, ?_, ?_, ?_⟩
  · intro e he hfirst
    have hnone := (hbefore e he _ List.mem_cons_self hfirst).1
    contradiction
  · exact ⟨i, due o.poll statuses 0 i, hlength, hs.getLast?_calls hlength, htime.symm,
      htask ▸ hresult⟩
  · intro call hcall
    obtain ⟨j, hj, rfl⟩ := hs.mem_calls_iff.1 hcall
    have hle : j ≤ i := by omega
    exact htime ▸ due_le_answeredAt_of_le o.poll statuses 0 hle
  · intro call hcall
    exact (unseen_iff hpoll hended).1 (hl.of_mem_calls hpoll hcall).2

end Terminal

theorem run_chronological (o : Options) (statuses : Script (Answer TaskInfo))
    (logs : Script (Answer LogChunk)) : Chronological (run o statuses logs).events := by
  have h := turns_run o statuses logs
  rw [events_run]
  refine weave_pairwise h h.status_chronological h.log_chronological ?_ ?_
  · exact fun s _ l _ hafter => le_of_comesAfter hafter
  · intro s _ l _ hbefore
    simp only [comesAfter, Bool.or_eq_false_iff, decide_eq_false_iff_not] at hbefore
    omega

/-- What the events of a run say agrees with its outcome. -/
structure Agrees (r : Run) : Prop where
  chronological : Chronological r.events
  finished : r.events.filterMap (·.what.finished?) = r.outcome.status.toList
  cancelled : r.outcome.cancelled ↔ r.outcome.status = none
  lastTask : r.outcome.lastTask = (r.events.filterMap (·.what.task?)).getLast?
  errors : r.outcome.errors = r.events.filterMap (·.what.message?)
  preceded : ∀ before after time task, r.events = before ++ ⟨time, .status task⟩ :: after →
    ∃ earlier, before = earlier ++ [⟨time, .progress (Progress.ratio task.finished task.total)⟩]
  followed : ∀ before after time ratio, r.events = before ++ ⟨time, .progress ratio⟩ :: after →
    ∃ task later, ratio = Progress.ratio task.finished task.total ∧
      after = ⟨time, .status task⟩ :: later

theorem run_agrees (o : Options) (statuses : Script (Answer TaskInfo))
    (logs : Script (Answer LogChunk)) : Agrees (run o statuses logs) where
  chronological := run_chronological o statuses logs
  finished := by
    have hs := statusSide_polls o statuses
    have hlog : ∀ e ∈ (logSide o statuses logs).events, e.what.finished? = none := fun e he =>
      Event.finished?_of_not_finished ((logSide_polls o statuses logs).not_finished e he)
    rw [events_run, filterMap_weave hlog]
    exact hs.finished_eq
  cancelled := Option.isNone_iff_eq_none
  lastTask := by
    have hs := statusSide_polls o statuses
    have hlog : ∀ e ∈ (logSide o statuses logs).events, e.what.task? = none := fun e he =>
      Event.task?_of_not_task ((logSide_polls o statuses logs).not_task e he)
    rw [events_run, filterMap_weave hlog]
    exact hs.last_eq.trans Option.or_none
  errors := errors_eq_messages o statuses logs
  preceded := fun _ _ _ _ hsplit => (run_paired o statuses logs).preceded hsplit
  followed := fun _ _ _ _ hsplit => (run_paired o statuses logs).followed hsplit

/-- The stream of events agrees with the outcome; a status that ends the task settles the run, and
the errors are the failures of all polls. -/
theorem stream_agrees_with_outcome (hpoll : 0 < o.poll) (statuses : Script (Answer TaskInfo))
    (logs : Script (Answer LogChunk)) :
    Agrees (run o statuses logs) ∧
      (∀ before after time task,
        (run o statuses logs).events = before ++ ⟨time, .status task⟩ :: after →
          task.status.isTerminal → Settled o statuses logs before time task after) ∧
      Interleaves (failures statuses (run o statuses logs).statusCalls.length)
        (failures logs (run o statuses logs).logCalls.length)
        (run o statuses logs).outcome.errors :=
  ⟨run_agrees o statuses logs, fun _ _ _ _ hsplit hterminal => run_settled hpoll hsplit hterminal,
    errors_eq_messages o statuses logs ▸ messages_interleave hpoll statuses logs⟩

theorem quickEnd_settles :
    0 < ({ cancel := 60051 } : Options).poll ∧
      (run { cancel := 60051 } quickEnd slowFailure).outcome.status = some .successful ∧
      ∀ call ∈ (run { cancel := 60051 } quickEnd slowFailure).statusCalls, call ≤ 10 := by
  obtain ⟨hagrees, hsettles, -⟩ := stream_agrees_with_outcome (o := { cancel := 60051 }) (by decide)
    quickEnd slowFailure
  have hfinished := hagrees.finished
  rw [events_slowFailure] at hfinished
  have hsettled := hsettles [_] _ 10 { status := .successful, finished := 1, total := 1 }
    events_slowFailure rfl
  exact ⟨by decide, Option.toList_eq_singleton_iff.1 hfinished.symm, hsettled.statusCalls_le⟩

end DeployWizard.Monitor
