import DeployWizard.Proofs.StreamAgreement

set_option autoImplicit false

namespace DeployWizard.Monitor

namespace Answer

def chunk? (a : Answer LogChunk) : Option LogChunk :=
  a.result.toOption

theorem offsetAfter_greatest (a : Answer LogChunk) (offset : UInt64) :
    offset ≤ a.offsetAfter offset ∧
      (∀ chunk, a.chunk? = some chunk → chunk.offset ≤ a.offsetAfter offset) ∧
      (a.offsetAfter offset = offset ∨
        ∃ chunk, a.chunk? = some chunk ∧ chunk.offset = a.offsetAfter offset) := by
  unfold offsetAfter chunk?
  cases a.result with
  | error e => exact ⟨UInt64.le_refl _, fun _ h => (by cases h), Or.inl rfl⟩
  | ok chunk =>
    dsimp only
    split
    next hle =>
      exact ⟨hle, fun _ h => Option.some.inj h ▸ UInt64.le_refl _, Or.inr ⟨chunk, rfl, rfl⟩⟩
    next hlt =>
      have hle := (UInt64.le_total offset chunk.offset).resolve_left hlt
      exact ⟨UInt64.le_refl _, fun _ h => Option.some.inj h ▸ hle, Or.inl rfl⟩

end Answer

/-- An offset is the greatest that the pieces told which the polls before a place got, or 0. -/
structure Reached (logs : Script (Answer LogChunk)) (i : Nat) (offset : UInt64) : Prop where
  bound : ∀ j < i, ∀ chunk, (logs.get j).chunk? = some chunk → chunk.offset ≤ offset
  attained : offset = 0 ∨ ∃ j < i, ∃ chunk, (logs.get j).chunk? = some chunk ∧
    chunk.offset = offset

namespace Reached
variable {logs : Script (Answer LogChunk)} {i j : Nat} {u v : UInt64}

theorem start (logs : Script (Answer LogChunk)) : Reached logs 0 0 :=
  ⟨fun _ hj => absurd hj (Nat.not_lt_zero _), Or.inl rfl⟩

theorem next (h : Reached logs i u) : Reached logs (i + 1) ((logs.get i).offsetAfter u) := by
  obtain ⟨hle, hchunk, heq⟩ := (logs.get i).offsetAfter_greatest u
  refine ⟨fun j hj chunk hj' => ?_, ?_⟩
  · obtain hlt | rfl := Nat.lt_succ_iff_lt_or_eq.1 hj
    · exact UInt64.le_trans (h.bound j hlt chunk hj') hle
    · exact hchunk chunk hj'
  · obtain heq | ⟨chunk, hi, heq⟩ := heq
    · rw [heq]
      exact h.attained.imp_right fun ⟨j, hj, hmore⟩ => ⟨j, by omega, hmore⟩
    · exact Or.inr ⟨i, i.lt_add_one, chunk, hi, heq⟩

theorem mono (hu : Reached logs i u) (hv : Reached logs j v) (hij : i ≤ j) : u ≤ v := by
  obtain rfl | ⟨k, hk, chunk, hchunk, rfl⟩ := hu.attained
  · exact UInt64.zero_le
  · exact hv.bound k (by omega) chunk hchunk

end Reached

theorem offsetAt_reached (logs : Script (Answer LogChunk)) (i : Nat) :
    Reached logs i (offsetAt logs 0 i) := by
  induction i with
  | zero => exact .start logs
  | succ i ih => exact ih.next

variable {o : Options} {statuses : Script (Answer TaskInfo)} {logs : Script (Answer LogChunk)}

/-- Whether what happens on the log side at a time comes before the status that ends the task:
earlier, or at the same time in a turn that the log side leads. -/
def aheadOfEnd (o : Options) (statuses : Script (Answer TaskInfo))
    (logs : Script (Answer LogChunk)) (time : Nat) : Bool :=
  (run o statuses logs).events.all fun e =>
    !e.what.endsTask || time < e.time ||
      (time = e.time && !statusLeads (sharedTurns o statuses logs) e.time)

/-- What is sent of the log for the poll at a place. -/
def piece? (o : Options) (statuses : Script (Answer TaskInfo)) (logs : Script (Answer LogChunk))
    (i : Nat) : Option (Timed Event) :=
  let time := answeredAt o.poll logs 0 i
  ((logs.get i).chunk?.filter fun chunk => chunk.log ≠ "" && aheadOfEnd o statuses logs time).map
    fun chunk => ⟨time, .log chunk⟩

theorem Answer.endsTask_mem_statusEvents {a : Answer TaskInfo} (h : a.ending?.isSome) (time : Nat) :
    ∃ e ∈ a.statusEvents time, e.what.endsTask := by
  unfold ending? task? at h
  unfold statusEvents
  cases hresult : a.result with
  | error e => simp [hresult, Except.toOption] at h
  | ok task =>
    rw [hresult] at h
    refine ⟨⟨time, .status task⟩, by simp, ?_⟩
    simpa [Event.endsTask, Event.task?, Except.toOption, Option.filter] using h

theorem ended_of_endsTask (hpoll : 0 < o.poll) {e : Timed Event}
    (he : e ∈ (run o statuses logs).events) (hends : e.what.endsTask) :
    (statusSide o statuses).ended = some e.time := by
  have htask : e.what.isTask := by
    by_contra hnot
    rw [Event.endsTask, Event.task?_of_not_task (by simpa using hnot)] at hends
    contradiction
  exact (statusSide_polls o statuses).ended_of_endsTask hpoll (mem_statusSide_of_isTask he htask)
    hends

theorem endsTask_mem_of_ended (hpoll : 0 < o.poll) (logs : Script (Answer LogChunk)) {ended : Nat}
    (hended : (statusSide o statuses).ended = some ended) :
    ∃ e ∈ (run o statuses logs).events, e.what.endsTask ∧ e.time = ended := by
  have hs := statusSide_polls o statuses
  obtain ⟨i, hi, hends, rfl⟩ := hs.ended_eq_some_iff.1 hended
  obtain ⟨e, he, hends⟩ :=
    Answer.endsTask_mem_statusEvents hends (answeredAt o.poll statuses 0 i)
  refine ⟨e, ?_, hends, (Answer.of_mem_statusEvents he).1⟩
  rw [events_run, mem_weave, (hs.reports hpoll).1]
  exact Or.inl (List.mem_flatMap.2 ⟨i, List.mem_range.2 hi, List.mem_append_left _ he⟩)

theorem aheadOfEnd_iff (hpoll : 0 < o.poll) (logs : Script (Answer LogChunk)) {ended : Nat}
    (hended : (statusSide o statuses).ended = some ended) (time : Nat) :
    aheadOfEnd o statuses logs time ↔
      time < ended ∨ time = ended ∧ statusLeads (sharedTurns o statuses logs) ended = false := by
  rw [aheadOfEnd, List.all_eq_true]
  constructor
  · intro h
    obtain ⟨e, he, hends, rfl⟩ := endsTask_mem_of_ended hpoll logs hended
    simpa [hends] using h e he
  · intro h e he
    cases hends : e.what.endsTask with
    | false => rfl
    | true =>
      obtain rfl := Option.some.inj (hended.symm.trans (ended_of_endsTask hpoll he hends))
      simpa using h

theorem endedBy_seenAt (hpoll : 0 < o.poll) (statuses : Script (Answer TaskInfo))
    (logs : Script (Answer LogChunk)) (time : Nat) :
    endedBy (seenAt o (statusSide o statuses) logs) time = !aheadOfEnd o statuses logs time := by
  rw [← Bool.not_eq_eq_eq_not, Bool.eq_iff_iff, Bool.not_eq_true']
  cases hended : (statusSide o statuses).ended with
  | none =>
    refine iff_of_true (by rw [seenAt, hended]; rfl) ?_
    rw [aheadOfEnd, List.all_eq_true]
    intro e he
    cases hends : e.what.endsTask with
    | false => rfl
    | true =>
      rw [ended_of_endsTask hpoll he hends] at hended
      cases hended
  | some ended => exact (unseen_iff hpoll hended).trans (aheadOfEnd_iff hpoll logs hended time).symm

theorem filter_isLog_logReport (hpoll : 0 < o.poll) (statuses : Script (Answer TaskInfo))
    (logs : Script (Answer LogChunk)) (i : Nat) :
    (logReport o (seenAt o (statusSide o statuses) logs) logs 0 i).filter (·.what.isLog) =
      (piece? o statuses logs i).toList := by
  have hseen := endedBy_seenAt hpoll statuses logs (answeredAt o.poll logs 0 i)
  unfold logReport piece? Answer.isDropped Answer.isOk Answer.logEvents Answer.chunk?
  cases (logs.get i).result with
  | error e => rfl
  | ok chunk =>
    by_cases hempty : chunk.log = ""
    · simp [hempty, Except.toOption]
    · cases hahead : aheadOfEnd o statuses logs (answeredAt o.poll logs 0 i) with
      | false => simp [hseen, hahead, Except.toOption]
      | true => simp [hseen, hahead, hempty, Except.toOption, Option.filter, Event.isLog]

theorem StatusPolls.not_log {script : Script (Answer TaskInfo)} {last : Option TaskInfo}
    {time : Nat} {r : StatusRun} (h : StatusPolls o script last time r) (hpoll : 0 < o.poll) :
    ∀ e ∈ r.events, e.what.isLog = false := by
  intro e he
  rw [(h.reports hpoll).1, List.mem_flatMap] at he
  obtain ⟨i, -, he⟩ := he
  obtain he | he := List.mem_append.1 he
  · unfold Answer.statusEvents at he
    split at he
    · obtain rfl | rfl : e = _ ∨ e = _ := by simpa using he
      · rfl
      · rfl
    · rw [List.mem_singleton.1 he]
      rfl
  · obtain ⟨status, -, -, rfl⟩ := Answer.mem_announcement_iff.1 he
    rfl

section Run
variable (statuses : Script (Answer TaskInfo)) (logs : Script (Answer LogChunk))

theorem filter_isLog_events (hpoll : 0 < o.poll) :
    (run o statuses logs).events.filter (·.what.isLog) =
      (List.range (run o statuses logs).logCalls.length).filterMap (piece? o statuses logs) := by
  have hreports := ((logSide_polls o statuses logs).reports hpoll).1
  rw [events_run, filter_weave_log ((statusSide_polls o statuses).not_log hpoll), hreports,
    List.filter_flatMap, List.filterMap_eq_flatMap_toList]
  exact List.flatMap_congr fun i _ => filter_isLog_logReport hpoll statuses logs i

theorem logCalls_eq :
    (run o statuses logs).logCalls =
      (List.range (run o statuses logs).logCalls.length).map fun i =>
        ⟨due o.poll logs 0 i, offsetAt logs 0 i⟩ :=
  (logSide_polls o statuses logs).calls_eq

theorem logCalls_offsets_pairwise :
    (run o statuses logs).logCalls.Pairwise fun c d => c.what ≤ d.what := by
  rw [logCalls_eq, List.pairwise_map]
  refine List.pairwise_lt_range.imp fun {i j} hij => ?_
  exact (offsetAt_reached logs i).mono (offsetAt_reached logs j) hij.le

end Run

/-- The log is polled when it is due, until the task has ended or the monitor is cancelled, each
time from the greatest offset told so far. Of the log just the pieces that come before the end are
sent, poll by poll. -/
theorem log_followed (hpoll : 0 < o.poll) (statuses : Script (Answer TaskInfo))
    (logs : Script (Answer LogChunk)) :
    (∀ i, i < (run o statuses logs).logCalls.length ↔ due o.poll logs 0 i < o.cancel ∧
        aheadOfEnd o statuses logs (due o.poll logs 0 i)) ∧
      (∀ i call, (run o statuses logs).logCalls[i]? = some call →
        call.time = due o.poll logs 0 i ∧ Reached logs i call.what) ∧
      ((run o statuses logs).logCalls.Pairwise fun c d => c.what ≤ d.what) ∧
      (run o statuses logs).events.filter (·.what.isLog) =
        (List.range (run o statuses logs).logCalls.length).filterMap (piece? o statuses logs) ∧
      (run o statuses logs).events.Pairwise EndsLast := by
  refine ⟨fun i => ?_, fun i call hcall => ?_, logCalls_offsets_pairwise statuses logs,
    filter_isLog_events statuses logs hpoll, run_endsLast hpoll statuses logs⟩
  · have hmade := (logSide_polls o statuses logs).made_iff hpoll i
    rwa [endedBy_seenAt hpoll, Bool.not_eq_false'] at hmade
  · rw [logCalls_eq, List.getElem?_map, Option.map_eq_some_iff] at hcall
    obtain ⟨j, hj, rfl⟩ := hcall
    obtain ⟨-, rfl⟩ := List.getElem?_eq_some_iff.1 hj
    rw [List.getElem_range]
    exact ⟨rfl, offsetAt_reached logs i⟩

/-- A log with a failure between two pieces of which the second tells an older offset; the next
piece takes long. -/
def rewindingLog : Script (Answer LogChunk) :=
  ⟨[⟨0, .ok { log := "one", offset := 5 }⟩, ⟨0, .error (.network "connection reset")⟩,
    ⟨0, .ok { log := "two", offset := 3 }⟩], ⟨100, .ok { log := "late", offset := 9 }⟩⟩

theorem rewindingLog_followed :
    let o : Options := { poll := 50, cancel := 60051 }
    0 < o.poll ∧ (run o thirdEnds rewindingLog).logCalls.length = 4 ∧
      (∀ call, (run o thirdEnds rewindingLog).logCalls[3]? = some call →
        Reached rewindingLog 3 call.what) ∧
      (run o thirdEnds rewindingLog).events.filter (·.what.isLog) =
        [⟨0, .log { log := "one", offset := 5 }⟩, ⟨100, .log { log := "two", offset := 3 }⟩] := by
  intro o
  have hpoll : 0 < o.poll := by decide
  obtain ⟨hmade, hcalls, -, hevents, -⟩ := log_followed hpoll thirdEnds rewindingLog
  have hs := statusSide_polls o thirdEnds
  have hended : (statusSide o thirdEnds).ended = some 160 :=
    hs.ended_eq_some_iff.2
      ⟨2, (hs.made_iff hpoll 2).2 ⟨by decide, by decide⟩, by decide, by decide⟩
  have hahead {t : Nat} (ht : t < 160) : aheadOfEnd o thirdEnds rewindingLog t = true :=
    (aheadOfEnd_iff hpoll rewindingLog hended t).2 (Or.inl ht)
  have hlate {t : Nat} (ht : 160 < t) : aheadOfEnd o thirdEnds rewindingLog t = false := by
    rw [← Bool.not_eq_true, aheadOfEnd_iff hpoll rewindingLog hended]
    omega
  have hlength : (run o thirdEnds rewindingLog).logCalls.length = 4 := by
    have hfourth := (hmade 3).2 ⟨by decide, hahead (by decide)⟩
    have hfifth : ¬4 < (run o thirdEnds rewindingLog).logCalls.length := by
      rw [hmade 4, hlate (by decide)]
      exact fun h => Bool.false_ne_true h.2
    omega
  have hpieces : (List.range 4).filterMap (piece? o thirdEnds rewindingLog) =
      [⟨0, .log { log := "one", offset := 5 }⟩, ⟨100, .log { log := "two", offset := 3 }⟩] := by
    have hrange : List.range 4 = [0, 1, 2, 3] := rfl
    have hone := hahead (t := answeredAt o.poll rewindingLog 0 0) (by decide)
    have htwo := hahead (t := answeredAt o.poll rewindingLog 0 2) (by decide)
    have hdropped := hlate (t := answeredAt o.poll rewindingLog 0 3) (by decide)
    simp only [hrange, List.filterMap_cons, piece?, hone, htwo, hdropped]
    rfl
  refine ⟨hpoll, hlength, fun call hcall => (hcalls 3 call hcall).2, ?_⟩
  rw [hevents, hlength, hpieces]

end DeployWizard.Monitor
