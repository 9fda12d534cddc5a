import DeployWizard.Proofs.Weaving

set_option autoImplicit false

namespace DeployWizard.Monitor

/-- The events of a side that polls from a time on, against the times at which it wakes. -/
structure WellTimed (start : Nat) (events : List (Timed Event)) (wakes : List Nat) : Prop where
  chronological : Chronological events
  awake : ∀ e ∈ events, e.time ∈ start :: wakes
  ordered : (start :: wakes).Pairwise (· ≤ ·)

namespace WellTimed

variable {start answered wake : Nat} {events rest : List (Timed Event)} {wakes : List Nat}

theorem start_le (h : WellTimed start events wakes) : ∀ e ∈ events, start ≤ e.time := by
  intro e he
  obtain heq | hin := List.mem_cons.1 (h.awake e he)
  · omega
  · exact (List.pairwise_cons.1 h.ordered).1 _ hin

theorem stopped (start : Nat) : WellTimed start [] [] :=
  ⟨List.Pairwise.nil, by simp, List.pairwise_singleton _ _⟩

theorem poll (hcall : start ≤ answered) (hpause : answered ≤ wake)
    (hevents : ∀ e ∈ events, e.time = answered) (hrest : WellTimed wake rest wakes) :
    WellTimed start (events ++ rest) (answered :: wake :: wakes) := by
  have hordered : (answered :: wake :: wakes).Pairwise (· ≤ ·) := by
    refine List.pairwise_cons.2 ⟨?_, hrest.ordered⟩
    intro w hw
    obtain rfl | hw := List.mem_cons.1 hw
    · exact hpause
    · exact hpause.trans ((List.pairwise_cons.1 hrest.ordered).1 w hw)
  refine ⟨List.pairwise_append.2 ⟨?_, hrest.chronological, ?_⟩, ?_, ?_⟩
  · refine List.pairwise_iff_forall_sublist.2 ?_
    intro x y hxy
    rw [hevents x (hxy.subset (by simp)), hevents y (hxy.subset (by simp))]
  · intro x hx y hy
    rw [hevents x hx]
    exact hpause.trans (hrest.start_le y hy)
  · intro e he
    obtain he | he := List.mem_append.1 he
    · simp [hevents e he]
    · exact List.mem_cons_of_mem _ (List.mem_cons_of_mem _ (hrest.awake e he))
  · refine List.pairwise_cons.2 ⟨?_, hordered⟩
    intro w hw
    obtain rfl | hw := List.mem_cons.1 hw
    · exact hcall
    · exact hcall.trans ((List.pairwise_cons.1 hordered).1 w hw)

theorem lastPoll (hcall : start ≤ answered) (hpause : answered ≤ wake)
    (hevents : ∀ e ∈ events, e.time = answered) : WellTimed start events [answered, wake] := by
  have h := poll hcall hpause hevents (stopped wake)
  rwa [List.append_nil] at h

end WellTimed

theorem Options.le_of_pause_eq_error {o : Options} {time length stop : Nat}
    (h : o.pause time length = .error stop) : time ≤ stop := by
  unfold pause at h
  split at h
  · injection h with h
    omega
  · simp at h

def LogRun.lastFailure (r : LogRun) (script : Script (Answer LogChunk)) : List (Timed Event) :=
  match r.calls.getLast? with
  | none => []
  | some call =>
    let a := script.get (r.calls.length - 1)
    if a.isOk then [] else a.logEvents (call.time + a.delay)

namespace LogRun

theorem lastFailure_single (script : Script (Answer LogChunk)) (call : Timed UInt64)
    (events : List (Timed Event)) (recorded : List (Timed String)) (wakes : List Nat)
    (stop : Nat) :
    (LogRun.mk [call] events recorded wakes stop).lastFailure script =
      if script.next.1.isOk then []
      else script.next.1.logEvents (call.time + script.next.1.delay) := by
  rw [script.next_fst]
  rfl

theorem lastFailure_again {r : LogRun} (h : r.calls ≠ []) (script : Script (Answer LogChunk))
    (call : Timed UInt64) (events : List (Timed Event)) (recorded : List (Timed String))
    (wakes : List Nat) :
    (LogRun.mk (call :: r.calls) events recorded wakes r.stop).lastFailure script =
      r.lastFailure script.next.2 := by
  obtain ⟨second, calls, hcalls⟩ := List.exists_cons_of_ne_nil h
  simp only [lastFailure, hcalls, List.getLast?_cons_cons, List.length_cons, Nat.add_sub_cancel,
    script.get_next]

theorem lastFailure_of_error {r : LogRun} {script : Script (Answer LogChunk)}
    {call : Timed UInt64} {error : Service.Error} (hlast : r.calls.getLast? = some call)
    (hfailed : (script.get (r.calls.length - 1)).result = .error error) :
    r.lastFailure script =
      [⟨call.time + (script.get (r.calls.length - 1)).delay, .error error.message⟩] := by
  simp [lastFailure, hlast, Answer.isOk, Answer.logEvents, hfailed]

theorem error_of_mem_lastFailure {r : LogRun} {script : Script (Answer LogChunk)} {e : Timed Event}
    (h : e ∈ r.lastFailure script) :
    ∃ call error, r.calls.getLast? = some call ∧
      (script.get (r.calls.length - 1)).result = .error error ∧
      e.time = call.time + (script.get (r.calls.length - 1)).delay := by
  unfold lastFailure at h
  split at h
  · simp at h
  · next call hlast =>
    cases hresult : (script.get (r.calls.length - 1)).result with
    | ok chunk => simp [Answer.isOk, hresult] at h
    | error error =>
      simp only [Answer.isOk, hresult, Answer.logEvents, Bool.false_eq_true, if_false,
        List.mem_singleton] at h
      exact ⟨call, error, hlast, rfl, by rw [h]⟩

end LogRun

def Event.isFinished : Event → Bool
  | .finished _ => true
  | _ => false

namespace Answer

theorem of_mem_statusEvents {a : Answer TaskInfo} {time : Nat} {e : Timed Event}
    (h : e ∈ a.statusEvents time) : e.time = time ∧ e.what.isFinished = false := by
  unfold statusEvents at h
  split at h
  · obtain rfl | rfl : e = _ ∨ e = _ := by simpa using h
    · exact ⟨rfl, rfl⟩
    · exact ⟨rfl, rfl⟩
  · rw [List.mem_singleton.1 h]
    exact ⟨rfl, rfl⟩

theorem of_mem_logEvents {a : Answer LogChunk} {time : Nat} {e : Timed Event}
    (h : e ∈ a.logEvents time) : e.time = time ∧ e.what.isFinished = false := by
  unfold logEvents at h
  split at h
  · split at h
    · exact absurd h List.not_mem_nil
    · rw [List.mem_singleton.1 h]
      exact ⟨rfl, rfl⟩
  · rw [List.mem_singleton.1 h]
    exact ⟨rfl, rfl⟩

theorem late_logEvents {a : Answer LogChunk} {seen time : Nat}
    (hkept : (a.isOk && endedBy (some seen) time) = false) {late : Timed Event → Bool}
    (hlate : ∀ e, late e → seen ≤ e.time) :
    (a.logEvents time).filter late = (if a.isOk then [] else a.logEvents time).filter late := by
  cases hok : a.isOk with
  | false => rfl
  | true =>
    have hearly : ¬seen ≤ time := by simpa [hok, endedBy] using hkept
    rw [if_pos rfl, List.filter_nil, List.filter_eq_nil_iff]
    intro e he hcounted
    exact hearly ((of_mem_logEvents he).1 ▸ hlate e hcounted)

end Answer

/-- What the status side can do from a time on. -/
inductive StatusPolls (o : Options) :
    Script (Answer TaskInfo) → Option TaskInfo → Nat → StatusRun → Prop
  | cancelled {script : Script (Answer TaskInfo)} {last : Option TaskInfo} {time : Nat}
      (hcancel : o.cancel ≤ time) :
      StatusPolls o script last time ⟨[], [], [], none, none, last, [], time⟩
  | silenced {script : Script (Answer TaskInfo)} {last : Option TaskInfo} {time stop : Nat}
      {status : InstallStatus} (hcancel : time < o.cancel)
      (hend : script.next.1.ending? = some status)
      (hpause : o.pause (time + script.next.1.delay) o.finishDelay = .error stop) :
      StatusPolls o script last time
        ⟨[time], script.next.1.statusEvents (time + script.next.1.delay),
          script.next.1.recorded (time + script.next.1.delay), some (time + script.next.1.delay),
          none, script.next.1.task?.or last, [time + script.next.1.delay, stop], stop⟩
  | announced {script : Script (Answer TaskInfo)} {last : Option TaskInfo} {time finish : Nat}
      {status : InstallStatus} (hcancel : time < o.cancel)
      (hend : script.next.1.ending? = some status)
      (hpause : o.pause (time + script.next.1.delay) o.finishDelay = .ok finish) :
      StatusPolls o script last time
        ⟨[time], script.next.1.statusEvents (time + script.next.1.delay) ++
            [⟨finish, .finished status⟩],
          script.next.1.recorded (time + script.next.1.delay), some (time + script.next.1.delay),
          some status, script.next.1.task?.or last, [time + script.next.1.delay, finish], finish⟩
  | stopped {script : Script (Answer TaskInfo)} {last : Option TaskInfo} {time stop : Nat}
      (hcancel : time < o.cancel) (hend : script.next.1.ending? = none)
      (hstop : time + script.next.1.delay ≤ stop)
      (hwhy : o.pause (time + script.next.1.delay) o.poll = .error stop ∨ o.poll = 0) :
      StatusPolls o script last time
        ⟨[time], script.next.1.statusEvents (time + script.next.1.delay),
          script.next.1.recorded (time + script.next.1.delay), none, none,
          script.next.1.task?.or last, [time + script.next.1.delay, stop], stop⟩
  | again {script : Script (Answer TaskInfo)} {last : Option TaskInfo} {time wake : Nat}
      {r : StatusRun} (hcancel : time < o.cancel) (hend : script.next.1.ending? = none)
      (hpause : o.pause (time + script.next.1.delay) o.poll = .ok wake)
      (hrest : StatusPolls o script.next.2 (script.next.1.task?.or last) wake r) :
      StatusPolls o script last time
        { r with
          calls := time :: r.calls
          events := script.next.1.statusEvents (time + script.next.1.delay) ++ r.events
          recorded := script.next.1.recorded (time + script.next.1.delay) ++ r.recorded
          wakes := (time + script.next.1.delay) :: wake :: r.wakes }

theorem followStatus_polls (o : Options) (script : Script (Answer TaskInfo))
    (last : Option TaskInfo) (time : Nat) :
    StatusPolls o script last time (followStatus o script last time) := by
  fun_induction followStatus o script last time with
  | case1 script last time hcancel => exact .cancelled hcancel
  | case2 script last time hcancel a answered events recorded last' status hend stop hpause =>
    exact .silenced (by omega) hend hpause
  | case3 script last time hcancel a answered events recorded last' status hend finish hpause =>
    exact .announced (by omega) hend hpause
  | case4 script last time hcancel a answered events recorded last' hend stop hpause =>
    exact .stopped (by omega) hend (Options.le_of_pause_eq_error hpause) (Or.inl hpause)
  | case5 script last time hcancel a answered events recorded last' hend wake hpause hstuck =>
    have hwake : wake = time + script.next.1.delay + o.poll := (Options.pause_eq_ok hpause).1
    exact .stopped (by omega) hend (by omega) (Or.inr (by omega))
  | case6 script last time hcancel a answered events recorded last' hend wake hpause hgoing r ih =>
    exact .again (by omega) hend hpause ih

/-- What the log side can do from a time on, where the end of the task is seen at some time. -/
inductive LogPolls (o : Options) (ended : Option Nat) :
    Script (Answer LogChunk) → UInt64 → Nat → LogRun → Prop
  | quiet {script : Script (Answer LogChunk)} {offset : UInt64} {time : Nat}
      (hquiet : o.cancel ≤ time ∨ endedBy ended time) :
      LogPolls o ended script offset time ⟨[], [], [], [], time⟩
  | dropped {script : Script (Answer LogChunk)} {offset : UInt64} {time : Nat}
      (hcancel : time < o.cancel) (hgoing : endedBy ended time = false)
      (hok : script.next.1.isOk) (hend : endedBy ended (time + script.next.1.delay)) :
      LogPolls o ended script offset time
        ⟨[⟨time, offset⟩], [], [], [time + script.next.1.delay], time + script.next.1.delay⟩
  | stopped {script : Script (Answer LogChunk)} {offset : UInt64} {time stop : Nat}
      (hcancel : time < o.cancel) (hgoing : endedBy ended time = false)
      (hkept : (script.next.1.isOk && endedBy ended (time + script.next.1.delay)) = false)
      (hstop : time + script.next.1.delay ≤ stop)
      (hwhy : o.pause (time + script.next.1.delay) o.poll = .error stop ∨ o.poll = 0) :
      LogPolls o ended script offset time
        ⟨[⟨time, offset⟩], script.next.1.logEvents (time + script.next.1.delay),
          script.next.1.recorded (time + script.next.1.delay),
          [time + script.next.1.delay, stop], stop⟩
  | again {script : Script (Answer LogChunk)} {offset : UInt64} {time wake : Nat} {r : LogRun}
      (hcancel : time < o.cancel) (hgoing : endedBy ended time = false)
      (hkept : (script.next.1.isOk && endedBy ended (time + script.next.1.delay)) = false)
      (hpause : o.pause (time + script.next.1.delay) o.poll = .ok wake)
      (hrest : LogPolls o ended script.next.2 (script.next.1.offsetAfter offset) wake r) :
      LogPolls o ended script offset time
        { r with
          calls := ⟨time, offset⟩ :: r.calls
          events := script.next.1.logEvents (time + script.next.1.delay) ++ r.events
          recorded := script.next.1.recorded (time + script.next.1.delay) ++ r.recorded
          wakes := (time + script.next.1.delay) :: wake :: r.wakes }

theorem polling_of_not_over {o : Options} {ended : Option Nat} {time : Nat}
    (h : ¬(o.cancel ≤ time || endedBy ended time) = true) :
    time < o.cancel ∧ endedBy ended time = false := by
  simpa using h

theorem followLog_polls (o : Options) (ended : Option Nat) (script : Script (Answer LogChunk))
    (offset : UInt64) (time : Nat) :
    LogPolls o ended script offset time (followLog o ended script offset time) := by
  fun_induction followLog o ended script offset time with
  | case1 script offset time hquiet => exact .quiet (by simpa using hquiet)
  | case2 script offset time hgoing a answered hdropped =>
    obtain ⟨hcancel, hgoing⟩ := polling_of_not_over hgoing
    obtain ⟨hok, hend⟩ := Bool.and_eq_true_iff.1 hdropped
    exact .dropped hcancel hgoing hok hend
  | case3 script offset time hgoing a answered hkept events recorded stop hpause =>
    obtain ⟨hcancel, hgoing⟩ := polling_of_not_over hgoing
    exact .stopped hcancel hgoing (eq_false_of_ne_true hkept)
      (Options.le_of_pause_eq_error hpause) (Or.inl hpause)
  | case4 script offset time hgoing a answered hkept events recorded wake hpause hstuck =>
    obtain ⟨hcancel, hgoing⟩ := polling_of_not_over hgoing
    have hwake : wake = time + script.next.1.delay + o.poll := (Options.pause_eq_ok hpause).1
    exact .stopped hcancel hgoing (eq_false_of_ne_true hkept) (by omega) (Or.inr (by omega))
  | case5 script offset time hgoing a answered hkept events recorded wake hpause hadvancing r ih =>
    obtain ⟨hcancel, hgoing⟩ := polling_of_not_over hgoing
    exact .again hcancel hgoing (eq_false_of_ne_true hkept) hpause ih

namespace StatusPolls

variable {o : Options} {script : Script (Answer TaskInfo)} {last : Option TaskInfo} {time : Nat}
  {r : StatusRun}

theorem wellTimed (h : StatusPolls o script last time r) : WellTimed time r.events r.wakes := by
  induction h with
  | cancelled => exact WellTimed.stopped _
  | silenced _ _ hpause =>
    exact WellTimed.lastPoll (Nat.le_add_right _ _) (Options.le_of_pause_eq_error hpause)
      fun e he => (Answer.of_mem_statusEvents he).1
  | @announced _ _ _ finish status _ _ hpause =>
    have hfinish := (Options.pause_eq_ok hpause).1
    have hlast : WellTimed finish [⟨finish, .finished status⟩] [] :=
      ⟨List.pairwise_singleton _ _, by simp, List.pairwise_singleton _ _⟩
    exact WellTimed.poll (Nat.le_add_right _ _) (by omega)
      (fun e he => (Answer.of_mem_statusEvents he).1) hlast
  | stopped _ _ hstop _ =>
    exact WellTimed.lastPoll (Nat.le_add_right _ _) hstop
      fun e he => (Answer.of_mem_statusEvents he).1
  | again _ _ hpause _ ih =>
    have hwake := (Options.pause_eq_ok hpause).1
    exact WellTimed.poll (Nat.le_add_right _ _) (by omega)
      (fun e he => (Answer.of_mem_statusEvents he).1) ih

/-- The end of a task is announced after the pause that follows it, as the last event of its side,
or not at all. -/
theorem announcement (h : StatusPolls o script last time r) :
    ∃ polled, (∀ e ∈ polled, e.what.isFinished = false) ∧
      (r.status = none ∧ r.events = polled ∨
        ∃ ended status, r.ended = some ended ∧ r.status = some status ∧
          ended + o.finishDelay < o.cancel ∧
          r.events = polled ++ [⟨ended + o.finishDelay, .finished status⟩]) := by
  induction h with
  | cancelled => exact ⟨[], by simp, Or.inl ⟨rfl, rfl⟩⟩
  | silenced => exact ⟨_, fun e he => (Answer.of_mem_statusEvents he).2, Or.inl ⟨rfl, rfl⟩⟩
  | stopped => exact ⟨_, fun e he => (Answer.of_mem_statusEvents he).2, Or.inl ⟨rfl, rfl⟩⟩
  | announced _ _ hpause =>
    obtain ⟨rfl, hcancel⟩ := Options.pause_eq_ok hpause
    exact ⟨_, fun e he => (Answer.of_mem_statusEvents he).2,
      Or.inr ⟨_, _, rfl, rfl, hcancel, rfl⟩⟩
  | @again script _ time _ _ _ _ _ _ ih =>
    obtain ⟨polled, hpolled, hrest⟩ := ih
    refine ⟨script.next.1.statusEvents (time + script.next.1.delay) ++ polled, ?_, ?_⟩
    · intro e he
      obtain he | he := List.mem_append.1 he
      · exact (Answer.of_mem_statusEvents he).2
      · exact hpolled e he
    · obtain ⟨hstatus, hevents⟩ | ⟨ended, status, hended, hstatus, hcancel, hevents⟩ := hrest
      · exact Or.inl ⟨hstatus, congrArg _ hevents⟩
      · refine Or.inr ⟨ended, status, hended, hstatus, hcancel, ?_⟩
        rw [hevents, List.append_assoc]

end StatusPolls

namespace LogPolls

variable {o : Options} {ended : Option Nat} {script : Script (Answer LogChunk)} {offset : UInt64}
  {time : Nat} {r : LogRun}

theorem wellTimed (h : LogPolls o ended script offset time r) :
    WellTimed time r.events r.wakes := by
  induction h with
  | quiet => exact WellTimed.stopped _
  | dropped => exact ⟨List.Pairwise.nil, by simp, by simp⟩
  | stopped _ _ _ hstop _ =>
    exact WellTimed.lastPoll (Nat.le_add_right _ _) hstop fun e he => (Answer.of_mem_logEvents he).1
  | again _ _ _ hpause _ ih =>
    have hwake := (Options.pause_eq_ok hpause).1
    exact WellTimed.poll (Nat.le_add_right _ _) (by omega)
      (fun e he => (Answer.of_mem_logEvents he).1) ih

theorem not_finished (h : LogPolls o ended script offset time r) :
    ∀ e ∈ r.events, e.what.isFinished = false := by
  induction h with
  | quiet => simp
  | dropped => simp
  | stopped => exact fun e he => (Answer.of_mem_logEvents he).2
  | again _ _ _ _ _ ih =>
    intro e he
    obtain he | he := List.mem_append.1 he
    · exact (Answer.of_mem_logEvents he).2
    · exact ih e he

theorem eq_of_ended (h : LogPolls o ended script offset time r) (hended : endedBy ended time) :
    r = ⟨[], [], [], [], time⟩ := by
  cases h with
  | quiet => rfl
  | dropped _ hgoing | stopped _ hgoing | again _ hgoing => rw [hgoing] at hended; contradiction

theorem events_eq_nil (h : LogPolls o ended script offset time r) (hcalls : r.calls = []) :
    r.events = [] := by
  cases h with
  | quiet => rfl
  | dropped | stopped | again => exact absurd hcalls (List.cons_ne_nil _ _)

/-- After the end is seen the log side reports no more than the failure of its last poll. -/
theorem late_events {seen : Nat} (h : LogPolls o (some seen) script offset time r)
    {late : Timed Event → Bool} (hlate : ∀ e, late e → seen ≤ e.time) :
    r.events.filter late = (r.lastFailure script).filter late := by
  induction h with
  | quiet => rfl
  | dropped _ _ hok _ => rw [LogRun.lastFailure_single, if_pos hok]
  | stopped _ _ hkept _ _ => rw [LogRun.lastFailure_single, Answer.late_logEvents hkept hlate]
  | @again script offset time wake r _ _ hkept hpause hrest ih =>
    by_cases hcalls : r.calls = []
    · rw [hrest.events_eq_nil hcalls, List.append_nil, hcalls, LogRun.lastFailure_single,
        Answer.late_logEvents hkept hlate]
    · have hearly : time + script.next.1.delay < seen := by
        by_contra hpast
        have hwake := (Options.pause_eq_ok hpause).1
        have hnone := hrest.eq_of_ended (by simp [endedBy]; omega)
        exact hcalls (by rw [hnone])
      have hnow : (script.next.1.logEvents (time + script.next.1.delay)).filter late = [] := by
        rw [List.filter_eq_nil_iff]
        intro e he hcounted
        have hseen := hlate e hcounted
        rw [(Answer.of_mem_logEvents he).1] at hseen
        omega
      rw [LogRun.lastFailure_again hcalls, ← ih, List.filter_append, hnow, List.nil_append]

end LogPolls

end DeployWizard.Monitor
