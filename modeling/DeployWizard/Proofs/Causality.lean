import DeployWizard.Proofs.Interleaving
import DeployWizard.Proofs.StreamEnd
import DeployWizard.Proofs.Timetable

set_option autoImplicit false

namespace DeployWizard.Monitor

theorem flatMap_range_of_le {β : Type} {f : Nat → List β} {n m : Nat} (hnm : n ≤ m)
    (hnil : ∀ i, n ≤ i → i < m → f i = []) :
    (List.range m).flatMap f = (List.range n).flatMap f := by
  obtain ⟨k, rfl⟩ := Nat.exists_eq_add_of_le hnm
  have hrest : (List.range k).flatMap (fun i => f (n + i)) = [] := by
    rw [List.flatMap_eq_nil_iff]
    intro i hi
    have hk := List.mem_range.1 hi
    exact hnil (n + i) (by omega) (by omega)
  rw [List.range_add, List.flatMap_append, List.flatMap_map, hrest, List.append_nil]

theorem before_eq_nil {β : Type} (key : β → Nat) {T : Nat} {l : List β} (h : ∀ b ∈ l, T ≤ key b) :
    l.filter (key · < T) = [] := by
  rw [List.filter_eq_nil_iff]
  intro b hb
  simpa using h b hb

theorem before_flatMap_range {β : Type} (key : β → Nat) {T n m : Nat} {f g : Nat → List β}
    (hsame : ∀ i, (f i).filter (key · < T) = (g i).filter (key · < T))
    (hmade : ∀ i, (i < n ↔ i < m) ∨ ∀ b ∈ f i, T ≤ key b) :
    ((List.range n).flatMap f).filter (key · < T) =
      ((List.range m).flatMap g).filter (key · < T) := by
  have hlate : ∀ i, ¬(i < n ↔ i < m) → (f i).filter (key · < T) = [] :=
    fun i hi => before_eq_nil key ((hmade i).resolve_left hi)
  rw [List.filter_flatMap, List.filter_flatMap, ← funext hsame]
  obtain hnm | hmn := Nat.le_total n m
  · exact (flatMap_range_of_le hnm fun i hn hm => hlate i (by omega)).symm
  · exact flatMap_range_of_le hmn fun i hm hn => hlate i (by omega)

variable {o : Options} {cancel T : Nat}

theorem Options.wake_before (hcancel : min T o.cancel = min T cancel) (time length : Nat) :
    o.wake time length = ({ o with cancel } : Options).wake time length ∨
      T ≤ o.wake time length ∧ T ≤ ({ o with cancel } : Options).wake time length := by
  simp only [wake]
  split <;> split <;> omega

theorem filter_pair_wakes (hcancel : min T o.cancel = min T cancel) (time length : Nat) :
    [time, o.wake time length].filter (· < T) =
      [time, ({ o with cancel } : Options).wake time length].filter (· < T) := by
  obtain hsame | ⟨hlate, hlate'⟩ := Options.wake_before hcancel time length
  · rw [hsame]
  · simp [List.filter_cons, hlate, hlate']

theorem filter_announcement (hcancel : min T o.cancel = min T cancel) (a : Answer TaskInfo)
    (time : Nat) :
    (a.announcement o time).filter (·.time < T) =
      (a.announcement { o with cancel } time).filter (·.time < T) := by
  unfold Answer.announcement
  cases a.ending? with
  | none => rfl
  | some status =>
    by_cases hearly : time + o.finishDelay < T
    · have hcut : o.cancel ≤ time + o.finishDelay ↔ cancel ≤ time + o.finishDelay := by omega
      simp only [hcut]
    · dsimp only
      split <;> split <;> simp [hearly]

theorem Options.le_wake (o : Options) (time length : Nat) : time ≤ o.wake time length := by
  unfold wake
  split <;> omega

section Late
variable {start i : Nat}

theorem answeredAt_le_of_mem_statusReport {script : Script (Answer TaskInfo)} {e : Timed Event}
    (he : e ∈ statusReport o script start i) : answeredAt o.poll script start i ≤ e.time := by
  obtain he | he := List.mem_append.1 he
  · exact (Answer.of_mem_statusEvents he).1.ge
  · unfold Answer.announcement at he
    split at he
    · cases he
    · split at he
      · cases he
      · rw [List.mem_singleton.1 he]
        exact Nat.le_add_right _ _

theorem answeredAt_le_of_mem_statusWakes {script : Script (Answer TaskInfo)} {w : Nat}
    (hw : w ∈ statusWakes o script start i) : answeredAt o.poll script start i ≤ w := by
  obtain rfl | hw := List.mem_cons.1 hw
  · exact Nat.le_refl _
  · rw [List.mem_singleton.1 hw]
    exact o.le_wake _ _

theorem time_of_mem_logReport {ended : Option Nat} {script : Script (Answer LogChunk)}
    {e : Timed Event} (he : e ∈ logReport o ended script start i) :
    e.time = answeredAt o.poll script start i := by
  unfold logReport at he
  dsimp only at he
  split at he
  · cases he
  · exact (Answer.of_mem_logEvents he).1

theorem answeredAt_le_of_mem_logWakes {ended : Option Nat} {script : Script (Answer LogChunk)}
    {w : Nat} (hw : w ∈ logWakes o ended script start i) :
    answeredAt o.poll script start i ≤ w := by
  unfold logWakes at hw
  dsimp only at hw
  split at hw
  · exact (List.mem_singleton.1 hw).ge
  · obtain rfl | hw := List.mem_cons.1 hw
    · exact Nat.le_refl _
    · rw [List.mem_singleton.1 hw]
      exact o.le_wake _ _

end Late

namespace StatusPolls

variable {script : Script (Answer TaskInfo)} {last : Option TaskInfo} {time : Nat}
  {r r' : StatusRun}

theorem made_iff_of_early (h : StatusPolls o script last time r)
    (h' : StatusPolls { o with cancel } script last time r') (hpoll : 0 < o.poll)
    (hcancel : min T o.cancel = min T cancel) {i : Nat} (hearly : due o.poll script time i < T) :
    i < r.calls.length ↔ i < r'.calls.length := by
  rw [h.made_iff hpoll, h'.made_iff hpoll]
  have hcut : due o.poll script time i < o.cancel ↔ due o.poll script time i < cancel := by omega
  simp only [hcut]

/-- Before a time the status side does not show whether it is cancelled later. -/
theorem before_eq (h : StatusPolls o script last time r)
    (h' : StatusPolls { o with cancel } script last time r') (hpoll : 0 < o.poll)
    (hcancel : min T o.cancel = min T cancel) :
    r.calls.filter (· < T) = r'.calls.filter (· < T) ∧
      r.events.filter (·.time < T) = r'.events.filter (·.time < T) ∧
      r.wakes.filter (· < T) = r'.wakes.filter (· < T) := by
  have hmade : ∀ i, (i < r.calls.length ↔ i < r'.calls.length) ∨ T ≤ due o.poll script time i :=
    fun i => (Nat.lt_or_ge (due o.poll script time i) T).imp_left
      (h.made_iff_of_early h' hpoll hcancel)
  obtain ⟨hevents, hwakes⟩ := h.reports hpoll
  obtain ⟨hevents', hwakes'⟩ := h'.reports hpoll
  refine ⟨?_, ?_, ?_⟩
  · rw [h.calls_eq, h'.calls_eq, List.map_eq_flatMap, List.map_eq_flatMap]
    refine before_flatMap_range (fun t => t) (fun i => rfl) fun i => (hmade i).imp_right ?_
    intro hlate b hb
    rwa [List.mem_singleton.1 hb]
  · rw [hevents, hevents']
    refine before_flatMap_range Timed.time ?_ fun i => (hmade i).imp_right ?_
    · intro i
      simp only [statusReport, List.filter_append, filter_announcement hcancel]
    · intro hlate e he
      have hanswer := due_le_answeredAt o.poll script time i
      exact hlate.trans (hanswer.trans (answeredAt_le_of_mem_statusReport he))
  · rw [hwakes, hwakes']
    refine before_flatMap_range (fun t => t) ?_ fun i => (hmade i).imp_right ?_
    · exact fun i => filter_pair_wakes hcancel _ _
    · intro hlate w hw
      have hanswer := due_le_answeredAt o.poll script time i
      exact hlate.trans (hanswer.trans (answeredAt_le_of_mem_statusWakes hw))

end StatusPolls

theorem Answer.isDropped_congr {a : Answer LogChunk} {ended ended' : Option Nat} {time : Nat}
    (h : endedBy ended time = endedBy ended' time) :
    a.isDropped ended time = a.isDropped ended' time := by
  rw [isDropped, isDropped, h]

namespace LogPolls

variable {ended ended' : Option Nat} {script : Script (Answer LogChunk)} {offset : UInt64}
  {time : Nat} {r r' : LogRun}

theorem made_iff_of_early (h : LogPolls o ended script offset time r)
    (h' : LogPolls { o with cancel } ended' script offset time r') (hpoll : 0 < o.poll)
    (hcancel : min T o.cancel = min T cancel) (hended : ∀ t < T, endedBy ended t = endedBy ended' t)
    {i : Nat} (hearly : due o.poll script time i < T) :
    i < r.calls.length ↔ i < r'.calls.length := by
  rw [h.made_iff hpoll, h'.made_iff hpoll, hended _ hearly]
  have hcut : due o.poll script time i < o.cancel ↔ due o.poll script time i < cancel := by omega
  simp only [hcut]

theorem before_logReport (hended : ∀ t < T, endedBy ended t = endedBy ended' t) (i : Nat) :
    (logReport o ended script time i).filter (·.time < T) =
      (logReport { o with cancel } ended' script time i).filter (·.time < T) := by
  obtain hearly | hlate := Nat.lt_or_ge (answeredAt o.poll script time i) T
  · unfold logReport
    dsimp only
    rw [Answer.isDropped_congr (hended _ hearly)]
  · refine (before_eq_nil Timed.time ?_).trans (before_eq_nil Timed.time ?_).symm
    · exact fun e he => hlate.trans (time_of_mem_logReport he).ge
    · exact fun e he => hlate.trans (time_of_mem_logReport he).ge

theorem before_logWakes (hcancel : min T o.cancel = min T cancel)
    (hended : ∀ t < T, endedBy ended t = endedBy ended' t) (i : Nat) :
    (logWakes o ended script time i).filter (· < T) =
      (logWakes { o with cancel } ended' script time i).filter (· < T) := by
  obtain hearly | hlate := Nat.lt_or_ge (answeredAt o.poll script time i) T
  · unfold logWakes
    dsimp only
    rw [Answer.isDropped_congr (hended _ hearly)]
    cases (script.get i).isDropped ended' (answeredAt o.poll script time i) with
    | true => rfl
    | false => exact filter_pair_wakes hcancel _ _
  · refine (before_eq_nil (fun t => t) ?_).trans (before_eq_nil (fun t => t) ?_).symm
    · exact fun w hw => hlate.trans (answeredAt_le_of_mem_logWakes hw)
    · exact fun w hw => hlate.trans (answeredAt_le_of_mem_logWakes (o := { o with cancel }) hw)

/-- Before a time the log side does not show whether it is cancelled later, nor whether the end is
seen later. -/
theorem before_eq (h : LogPolls o ended script offset time r)
    (h' : LogPolls { o with cancel } ended' script offset time r') (hpoll : 0 < o.poll)
    (hcancel : min T o.cancel = min T cancel)
    (hended : ∀ t < T, endedBy ended t = endedBy ended' t) :
    r.calls.filter (·.time < T) = r'.calls.filter (·.time < T) ∧
      r.events.filter (·.time < T) = r'.events.filter (·.time < T) ∧
      r.wakes.filter (· < T) = r'.wakes.filter (· < T) := by
  have hmade : ∀ i, (i < r.calls.length ↔ i < r'.calls.length) ∨ T ≤ due o.poll script time i :=
    fun i => (Nat.lt_or_ge (due o.poll script time i) T).imp_left
      (h.made_iff_of_early h' hpoll hcancel hended)
  have hanswer := due_le_answeredAt o.poll script time
  obtain ⟨hevents, hwakes⟩ := h.reports hpoll
  obtain ⟨hevents', hwakes'⟩ := h'.reports hpoll
  refine ⟨?_, ?_, ?_⟩
  · rw [h.calls_eq, h'.calls_eq, List.map_eq_flatMap, List.map_eq_flatMap]
    refine before_flatMap_range Timed.time (fun i => rfl) fun i => (hmade i).imp_right ?_
    intro hlate b hb
    rwa [List.mem_singleton.1 hb]
  · rw [hevents, hevents']
    refine before_flatMap_range Timed.time ?_ fun i => (hmade i).imp_right ?_
    · exact fun i => before_logReport hended i
    · exact fun hlate e he => (hlate.trans (hanswer i)).trans (time_of_mem_logReport he).ge
  · rw [hwakes, hwakes']
    refine before_flatMap_range (fun t => t) ?_ fun i => (hmade i).imp_right ?_
    · exact fun i => before_logWakes hcancel hended i
    · exact fun hlate w hw => (hlate.trans (hanswer i)).trans (answeredAt_le_of_mem_logWakes hw)

end LogPolls

structure Wakes (status log : List Nat) : Prop where
  status : status.Pairwise (· ≤ ·)
  log : log.Pairwise (· ≤ ·)

section Turns
variable {s s' l l' : List Nat}

theorem mem_turns_congr (h : Wakes s l) (h' : Wakes s' l')
    (hstatus : s.filter (· < T) = s'.filter (· < T)) (hlog : l.filter (· < T) = l'.filter (· < T))
    {t : Nat} (ht : t < T) : t ∈ turns s l ↔ t ∈ turns s' l' := by
  have hmem : ∀ {x y : List Nat}, x.filter (· < T) = y.filter (· < T) → (t ∈ x ↔ t ∈ y) := by
    intro x y hxy
    have hfilter : t ∈ x.filter (· < T) ↔ t ∈ y.filter (· < T) := by rw [hxy]
    simpa [ht] using hfilter
  rw [mem_turns_iff h.status h.log, mem_turns_iff h'.status h'.log, hmem hstatus, hmem hlog]

theorem statusLeads_turns_congr (h : Wakes s l) (h' : Wakes s' l') {time : Nat} (hs : time ∈ s)
    (hs' : time ∈ s') (hstatus : s.filter (· < time) = s'.filter (· < time))
    (hlog : l.filter (· < time) = l'.filter (· < time)) :
    statusLeads (turns s l) time = statusLeads (turns s' l') time := by
  apply statusLeads_congr (turns_pairwise s l) (turns_pairwise s' l')
  intro t ht
  obtain rfl | ht := Nat.eq_or_lt_of_le ht
  · simp only [mem_turns_iff h.status h.log, mem_turns_iff h'.status h'.log, hs, hs', true_or,
      or_true]
  · exact mem_turns_congr h h' hstatus hlog ht

end Turns

namespace StatusPolls

variable {script : Script (Answer TaskInfo)} {last : Option TaskInfo} {time ended : Nat}
  {r r' : StatusRun}

theorem ended_mem_wakes (h : StatusPolls o script last time r) (hpoll : 0 < o.poll)
    (hended : r.ended = some ended) : ended ∈ r.wakes := by
  obtain ⟨i, hi, -, rfl⟩ := h.ended_eq_some_iff.1 hended
  rw [(h.reports hpoll).2, List.mem_flatMap]
  exact ⟨i, List.mem_range.2 hi, List.mem_cons_self⟩

theorem ended_iff_of_early (h : StatusPolls o script last time r)
    (h' : StatusPolls { o with cancel } script last time r') (hpoll : 0 < o.poll)
    (hcancel : min T o.cancel = min T cancel) (hearly : ended < T) :
    r.ended = some ended ↔ r'.ended = some ended := by
  rw [h.ended_eq_some_iff, h'.ended_eq_some_iff]
  refine exists_congr fun i => and_congr_left ?_
  rintro ⟨-, rfl⟩
  exact h.made_iff_of_early h' hpoll hcancel
    ((due_le_answeredAt o.poll script time i).trans_lt hearly)

end StatusPolls

variable {statuses : Script (Answer TaskInfo)} {logs : Script (Answer LogChunk)}

theorem wakes_followLog (o : Options) (statuses : Script (Answer TaskInfo)) (ended : Option Nat)
    (logs : Script (Answer LogChunk)) :
    Wakes (statusSide o statuses).wakes (followLog o ended logs 0 0).wakes :=
  ⟨(List.pairwise_cons.1 (statusSide_polls o statuses).wellTimed.ordered).2,
    (List.pairwise_cons.1 (followLog_polls o ended logs 0 0).wellTimed.ordered).2⟩

theorem endedBy_of_lt {seen t : Nat} (h : t < seen) : endedBy (some seen) t = false := by
  simpa [endedBy] using h

theorem seenAt_eq (logs : Script (Answer LogChunk)) (hpoll : 0 < o.poll) {ended : Nat}
    (hended : (statusSide o statuses).ended = some ended) :
    seenAt o (statusSide o statuses) logs =
      some (if statusLeads (sharedTurns o statuses logs) ended then ended else ended + 1) := by
  -- The definition asks who leads in a run of the log side that sees the end only the next time;
  -- the run that counts wakes at the same times before the end, so the same side leads.
  let l := followLog o (some (ended + 1)) logs 0 0
  have hseen : seenAt o (statusSide o statuses) logs =
      some (if statusLeads (turns (statusSide o statuses).wakes l.wakes) ended
        then ended else ended + 1) := by
    rw [seenAt, hended]
    rfl
  have hsame : statusLeads (turns (statusSide o statuses).wakes l.wakes) ended =
      statusLeads (sharedTurns o statuses logs) ended := by
    cases hleads : statusLeads (turns (statusSide o statuses).wakes l.wakes) ended with
    | false =>
      rw [hleads, if_neg Bool.false_ne_true] at hseen
      rw [sharedTurns, logSide, hseen]
      exact hleads.symm
    | true =>
      rw [hleads, if_pos rfl] at hseen
      rw [sharedTurns, logSide, hseen]
      have hunseen : ∀ t < ended, endedBy (some (ended + 1)) t = endedBy (some ended) t := by
        intro t ht
        rw [endedBy_of_lt ht, endedBy_of_lt (ht.trans ended.lt_add_one)]
      have hlog := (followLog_polls o (some (ended + 1)) logs 0 0).before_eq
        (followLog_polls o (some ended) logs 0 0) hpoll rfl hunseen
      have hwake := (statusSide_polls o statuses).ended_mem_wakes hpoll hended
      exact hleads.symm.trans (statusLeads_turns_congr (wakes_followLog o statuses _ logs)
        (wakes_followLog o statuses _ logs) hwake hwake rfl hlog.2.2)
  rw [hseen, hsame]

theorem endedBy_seenAt_of_lt (logs : Script (Answer LogChunk)) {t : Nat}
    (h : ∀ ended, (statusSide o statuses).ended = some ended → t < ended) :
    endedBy (seenAt o (statusSide o statuses) logs) t = false := by
  cases hended : (statusSide o statuses).ended with
  | none =>
    rw [seenAt, hended]
    rfl
  | some ended =>
    obtain ⟨seen, hseen, hle, -⟩ := seenAt_of_ended logs hended
    rw [hseen, endedBy_of_lt ((h ended hended).trans_le hle)]

theorem endedBy_seenAt_congr (statuses : Script (Answer TaskInfo))
    (logs : Script (Answer LogChunk)) (hpoll : 0 < o.poll)
    (hcancel : min T o.cancel = min T cancel) {t : Nat} (ht : t < T) :
    endedBy (seenAt o (statusSide o statuses) logs) t =
      endedBy (seenAt { o with cancel } (statusSide { o with cancel } statuses) logs) t := by
  have hs := statusSide_polls o statuses
  have hs' := statusSide_polls { o with cancel } statuses
  -- An end before the time is there in both runs, with the same leader; a later one is in none.
  by_cases hearly : ∃ ended < T, (statusSide o statuses).ended = some ended
  · obtain ⟨ended, hlt, hended⟩ := hearly
    have hended' := (hs.ended_iff_of_early hs' hpoll hcancel hlt).1 hended
    have hcancel' : min ended o.cancel = min ended cancel := by omega
    have hunseen : ∀ u < ended, endedBy (seenAt o (statusSide o statuses) logs) u =
        endedBy (seenAt { o with cancel } (statusSide { o with cancel } statuses) logs) u := by
      intro u hu
      rw [endedBy_seenAt_of_lt, endedBy_seenAt_of_lt]
      · intro e he
        rwa [← Option.some.inj (hended'.symm.trans he)]
      · intro e he
        rwa [← Option.some.inj (hended.symm.trans he)]
    have hlog := (logSide_polls o statuses logs).before_eq
      (logSide_polls { o with cancel } statuses logs) hpoll hcancel' hunseen
    have hleads := statusLeads_turns_congr (wakes_followLog o statuses _ logs)
      (wakes_followLog { o with cancel } statuses _ logs) (hs.ended_mem_wakes hpoll hended)
      (hs'.ended_mem_wakes hpoll hended') (hs.before_eq hs' hpoll hcancel').2.2 hlog.2.2
    rw [seenAt_eq logs hpoll hended, seenAt_eq (o := { o with cancel }) logs hpoll hended',
      sharedTurns, sharedTurns, logSide, logSide, hleads]
  · have hlate : ∀ ended, (statusSide o statuses).ended = some ended → t < ended := by
      intro ended hended
      by_contra hle
      exact hearly ⟨ended, by omega, hended⟩
    have hlate' : ∀ ended, (statusSide { o with cancel } statuses).ended = some ended →
        t < ended := by
      intro ended hended
      by_contra hle
      have hlt : ended < T := by omega
      exact hearly ⟨ended, hlt, (hs.ended_iff_of_early hs' hpoll hcancel hlt).2 hended⟩
    rw [endedBy_seenAt_of_lt logs hlate, endedBy_seenAt_of_lt logs hlate']

theorem turns_run (o : Options) (statuses : Script (Answer TaskInfo))
    (logs : Script (Answer LogChunk)) :
    Turns (sharedTurns o statuses logs) (statusSide o statuses).events
      (logSide o statuses logs).events where
  ascending := turns_pairwise _ _
  status_chronological := (statusSide_polls o statuses).wellTimed.chronological
  log_chronological := (logSide_polls o statuses logs).wellTimed.chronological
  status_awake := fun e he => mem_sharedTurns logs
    (Or.inl ((statusSide_polls o statuses).wellTimed.awake e he))
  log_awake := fun e he => mem_sharedTurns logs
    (Or.inr ((logSide_polls o statuses logs).wellTimed.awake e he))

/-- Two runs make the same calls before a time, and send the same events. -/
structure AgreeBefore (T : Nat) (r r' : Run) : Prop where
  statusCalls : r.statusCalls.filter (· < T) = r'.statusCalls.filter (· < T)
  logCalls : r.logCalls.filter (·.time < T) = r'.logCalls.filter (·.time < T)
  events : r.events.filter (·.time < T) = r'.events.filter (·.time < T)

theorem run_agreeBefore (statuses : Script (Answer TaskInfo)) (logs : Script (Answer LogChunk))
    (hpoll : 0 < o.poll) (hcancel : min T o.cancel = min T cancel) :
    AgreeBefore T (run o statuses logs) (run { o with cancel } statuses logs) := by
  obtain ⟨hstatusCalls, hstatusEvents, hstatusWakes⟩ := (statusSide_polls o statuses).before_eq
    (statusSide_polls { o with cancel } statuses) hpoll hcancel
  obtain ⟨hlogCalls, hlogEvents, hlogWakes⟩ := (logSide_polls o statuses logs).before_eq
    (logSide_polls { o with cancel } statuses logs) hpoll hcancel
    fun t ht => endedBy_seenAt_congr statuses logs hpoll hcancel ht
  refine ⟨hstatusCalls, hlogCalls, ?_⟩
  rw [events_run, events_run]
  refine filter_weave_congr (turns_run o statuses logs) (turns_run _ statuses logs) true ?_
    hstatusEvents hlogEvents
  exact fun t ht => mem_turns_congr (wakes_followLog o statuses _ logs)
    (wakes_followLog { o with cancel } statuses _ logs) hstatusWakes hlogWakes ht

end DeployWizard.Monitor
