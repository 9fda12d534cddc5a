import Mathlib.Data.List.TakeWhile
import DeployWizard.Monitor.Run

set_option autoImplicit false

namespace DeployWizard.Monitor

variable {α : Type}

def Chronological (events : List (Timed α)) : Prop :=
  events.Pairwise fun x y => x.time ≤ y.time

theorem dropWhile_eq_filter {events : List (Timed α)} (h : Chronological events) (t : Nat) :
    events.dropWhile (·.time ≤ t) = events.filter fun e => t < e.time := by
  induction events with
  | nil => rfl
  | cons e es ih =>
    obtain ⟨hfirst, hrest⟩ := List.pairwise_cons.1 h
    by_cases hle : e.time ≤ t
    · rw [List.dropWhile_cons_of_pos (by simpa using hle), ih hrest,
        List.filter_cons_of_neg (by simpa using hle)]
    · rw [List.dropWhile_cons_of_neg (by simpa using hle), eq_comm, List.filter_eq_self]
      intro x hx
      obtain rfl | hx := List.mem_cons.1 hx
      · simpa using hle
      · have hlater := hfirst x hx
        simp only [decide_eq_true_eq]
        omega

theorem drop_length_takeWhile (events : List (Timed α)) (t : Nat) :
    events.drop (events.takeWhile (·.time ≤ t)).length = events.dropWhile (·.time ≤ t) := by
  have hsplit := List.takeWhile_append_dropWhile (p := fun e : Timed α => e.time ≤ t)
    (l := events)
  have hdrop := congrArg (List.drop (events.takeWhile (·.time ≤ t)).length) hsplit
  rw [List.drop_left] at hdrop
  exact hdrop.symm

theorem distinctAfter_spec (last : Nat) (ts : List Nat) :
    (distinctAfter last ts).Pairwise (· < ·) ∧ ∀ t ∈ distinctAfter last ts, last < t := by
  fun_induction distinctAfter last ts with
  | case1 => simp
  | case2 last t ts _ ih => exact ih
  | case3 last t ts hlater ih =>
    obtain ⟨hpairwise, hfirst⟩ := ih
    refine ⟨List.pairwise_cons.2 ⟨hfirst, hpairwise⟩, ?_⟩
    intro x hx
    obtain rfl | hx := List.mem_cons.1 hx
    · omega
    · have := hfirst x hx
      omega

theorem mem_distinctAfter {last t : Nat} {ts : List Nat} (hts : ts.Pairwise (· ≤ ·)) (ht : t ∈ ts)
    (hlast : last < t) : t ∈ distinctAfter last ts := by
  fun_induction distinctAfter last ts with
  | case1 => simp at ht
  | case2 last x xs hskip ih =>
    obtain rfl | ht := List.mem_cons.1 ht
    · omega
    · exact ih hts.tail ht hlast
  | case3 last x xs _ ih =>
    obtain rfl | ht := List.mem_cons.1 ht
    · exact List.mem_cons_self
    · have hle := (List.pairwise_cons.1 hts).1 t ht
      by_cases heq : x = t
      · exact heq ▸ List.mem_cons_self
      · exact List.mem_cons_of_mem _ (ih hts.tail ht (by omega))

theorem turns_pairwise (status log : List Nat) : (turns status log).Pairwise (· < ·) := by
  obtain ⟨hpairwise, hfirst⟩ := distinctAfter_spec 0 (status.merge log fun a b => a ≤ b)
  exact List.pairwise_cons.2 ⟨hfirst, hpairwise⟩

theorem mem_turns {status log : List Nat} (hstatus : status.Pairwise (· ≤ ·))
    (hlog : log.Pairwise (· ≤ ·)) {t : Nat} (ht : t ∈ 0 :: status ∨ t ∈ 0 :: log) :
    t ∈ turns status log := by
  have hmerge : (status.merge log fun a b => a ≤ b).Pairwise (· ≤ ·) := by
    have hsorted : (status.merge log fun a b => a ≤ b).Pairwise fun a b => decide (a ≤ b) := by
      apply List.pairwise_merge
      · intro a b c hab hbc
        simp only [decide_eq_true_eq] at hab hbc ⊢
        omega
      · intro a b
        simp only [Bool.or_eq_true, decide_eq_true_eq]
        omega
      · exact hstatus.imp (by simp)
      · exact hlog.imp (by simp)
    exact hsorted.imp (by simp)
  by_cases hzero : t = 0
  · exact hzero ▸ List.mem_cons_self
  · have hwake : t ∈ status ∨ t ∈ log := by simpa [hzero] using ht
    exact List.mem_cons_of_mem _ (mem_distinctAfter hmerge (List.mem_merge.2 hwake) (by omega))

def turn (flag : Bool) (status log : List (Timed α)) : List (Timed α) :=
  if flag then status ++ log else log ++ status

theorem mem_turn {flag : Bool} {status log : List (Timed α)} {e : Timed α} :
    e ∈ turn flag status log ↔ e ∈ status ∨ e ∈ log := by
  cases flag <;> simp [turn, or_comm]

theorem weave_cons {status log : List (Timed α)} (hstatus : Chronological status)
    (hlog : Chronological log) (flag : Bool) (t : Nat) (ts : List Nat) :
    weave flag (t :: ts) status log =
      turn flag (status.takeWhile (·.time ≤ t)) (log.takeWhile (·.time ≤ t)) ++
        weave (!flag) ts (status.filter fun e => t < e.time) (log.filter fun e => t < e.time) := by
  rw [weave, drop_length_takeWhile, drop_length_takeWhile, dropWhile_eq_filter hstatus,
    dropWhile_eq_filter hlog, turn]

theorem mem_weave {flag : Bool} {ts : List Nat} {status log : List (Timed α)}
    {e : Timed α} : e ∈ weave flag ts status log ↔ e ∈ status ∨ e ∈ log := by
  induction ts generalizing flag status log with
  | nil => rw [weave, List.mem_append]
  | cons t ts ih =>
    have hsplit : ∀ events : List (Timed α), e ∈ events ↔
        e ∈ events.takeWhile (·.time ≤ t) ∨
          e ∈ events.drop (events.takeWhile (·.time ≤ t)).length := by
      intro events
      rw [drop_length_takeWhile, ← List.mem_append, List.takeWhile_append_dropWhile]
    rw [weave, List.mem_append, ih, hsplit status, hsplit log, or_or_or_comm]
    exact or_congr mem_turn Iff.rfl

theorem weave_nil (flag : Bool) (ts : List Nat) (log : List (Timed α)) :
    weave flag ts [] log = log := by
  induction ts generalizing flag log with
  | nil => rfl
  | cons t ts ih =>
    simp only [weave, List.takeWhile_nil, List.drop_nil, List.nil_append, List.append_nil, ite_self,
      ih, drop_length_takeWhile, List.takeWhile_append_dropWhile]

theorem statusLeads_cons_self {t : Nat} {ts : List Nat} (h : ∀ x ∈ ts, t < x) :
    statusLeads (t :: ts) t = true := by
  have hnone : ts.takeWhile (· ≤ t) = [] := by
    cases ts with
    | nil => rfl
    | cons x xs =>
      have hlt := h x List.mem_cons_self
      exact List.takeWhile_cons_of_neg (by simpa using hlt)
  simp [statusLeads, hnone]

theorem statusLeads_cons {t time : Nat} {ts : List Nat} (h : t ≤ time) :
    statusLeads (t :: ts) time = !statusLeads ts time := by
  simp only [statusLeads, List.takeWhile_cons, h, decide_true, if_true, List.length_cons]
  rcases Nat.mod_two_eq_zero_or_one (ts.takeWhile (· ≤ time)).length with hmod | hmod <;>
    simp [Nat.add_mod, hmod]

/-- Whether an event of the log side comes after the one at a time that ends the status side. -/
def comesAfter (flag : Bool) (ts : List Nat) (time : Nat) (e : Timed α) : Bool :=
  time < e.time || (e.time = time && flag == statusLeads ts time)

theorem comesAfter_self {time : Nat} {ts : List Nat} (h : ∀ x ∈ ts, time < x) (flag : Bool)
    (e : Timed α) :
    comesAfter flag (time :: ts) time e = (time < e.time || (e.time = time && flag)) := by
  rw [comesAfter, statusLeads_cons_self h]
  cases flag <;> rfl

theorem comesAfter_cons {t time : Nat} (h : t ≤ time) (flag : Bool) (ts : List Nat)
    (e : Timed α) : comesAfter flag (t :: ts) time e = comesAfter (!flag) ts time e := by
  rw [comesAfter, comesAfter, statusLeads_cons h]
  cases flag <;> cases statusLeads ts time <;> rfl

theorem le_of_comesAfter {flag : Bool} {ts : List Nat} {time : Nat} {e : Timed α}
    (h : comesAfter flag ts time e) : time ≤ e.time := by
  simp only [comesAfter, Bool.or_eq_true, Bool.and_eq_true, decide_eq_true_eq] at h
  omega

theorem filter_comesAfter_later {t time : Nat} (h : t < time) (flag : Bool) (ts : List Nat)
    (log : List (Timed α)) :
    (log.filter fun e => t < e.time).filter (comesAfter (!flag) ts time) =
      log.filter (comesAfter flag (t :: ts) time) := by
  rw [List.filter_filter]
  apply List.filter_congr
  intro e _
  rw [comesAfter_cons h.le]
  by_cases hafter : comesAfter (!flag) ts time e
  · have hlate : t < e.time := h.trans_le (le_of_comesAfter hafter)
    simp [hafter, hlate]
  · simp [hafter]

/-- At its own turn an event that ends the status side is followed by what the log side has left,
less what went first. -/
theorem weave_announced_now {ts : List Nat} {status log : List (Timed α)} {a : Timed α}
    (hts : ∀ x ∈ ts, a.time < x) (flag : Bool) (hstatus : Chronological (status ++ [a]))
    (hlog : Chronological log) (hmem : ∀ e ∈ log, e.time ∈ a.time :: ts) :
    ∃ before, weave flag (a.time :: ts) (status ++ [a]) log =
        before ++ a :: log.filter (comesAfter flag (a.time :: ts) a.time) ∧
      ∀ e ∈ before, e ∈ status ∨ e ∈ log := by
  have hall : ∀ e ∈ status ++ [a], e.time ≤ a.time := by
    intro e he
    obtain he | he := List.mem_append.1 he
    · exact (List.pairwise_append.1 hstatus).2.2 e he a List.mem_cons_self
    · rw [List.mem_singleton.1 he]
  have htake : (status ++ [a]).takeWhile (·.time ≤ a.time) = status ++ [a] :=
    List.takeWhile_eq_self_iff.2 (by simpa using hall)
  have hnone : ((status ++ [a]).filter fun e => a.time < e.time) = [] :=
    List.filter_eq_nil_iff.2 (by simpa using hall)
  have hlater : (log.filter fun e => a.time < e.time) = log.dropWhile (·.time ≤ a.time) :=
    (dropWhile_eq_filter hlog a.time).symm
  have hfollow : log.filter (comesAfter flag (a.time :: ts) a.time) =
      log.filter fun e => a.time < e.time || (e.time = a.time && flag) :=
    List.filter_congr fun e _ => comesAfter_self hts flag e
  rw [weave_cons hstatus hlog, htake, hnone, weave_nil, hfollow]
  -- The side that goes second has all its events of this time still before it.
  cases flag with
  | true =>
    refine ⟨status, ?_, fun e he => Or.inl he⟩
    have hwhole : (log.filter fun e => a.time < e.time || (e.time = a.time && true)) = log := by
      rw [List.filter_eq_self]
      intro e he
      obtain heq | hin := List.mem_cons.1 (hmem e he)
      · simp [heq]
      · simp [hts _ hin]
    rw [hwhole, hlater, turn, if_pos rfl, List.append_assoc, List.takeWhile_append_dropWhile,
      List.append_assoc, List.singleton_append]
  | false =>
    refine ⟨log.takeWhile (·.time ≤ a.time) ++ status, ?_, ?_⟩
    · simp [turn]
    · intro e he
      obtain he | he := List.mem_append.1 he
      · exact Or.inr ((List.takeWhile_prefix _).subset he)
      · exact Or.inl he

theorem weave_announced {ts : List Nat} (hts : ts.Pairwise (· < ·)) (flag : Bool)
    {status log : List (Timed α)} {a : Timed α} (hstatus : Chronological (status ++ [a]))
    (hlog : Chronological log) (ha : a.time ∈ ts) (hmem : ∀ e ∈ log, e.time ∈ ts) :
    ∃ before, weave flag ts (status ++ [a]) log =
        before ++ a :: log.filter (comesAfter flag ts a.time) ∧
      ∀ e ∈ before, e ∈ status ∨ e ∈ log := by
  induction ts generalizing flag status log with
  | nil => simp at ha
  | cons t ts ih =>
    obtain ⟨hlater, hts⟩ := List.pairwise_cons.1 hts
    obtain rfl | hin := List.mem_cons.1 ha
    · exact weave_announced_now hlater flag hstatus hlog hmem
    · have hlt : t < a.time := hlater _ hin
      have hrest : ((status ++ [a]).filter fun e => t < e.time) =
          (status.filter fun e => t < e.time) ++ [a] := by
        rw [List.filter_append, List.filter_cons_of_pos (by simpa using hlt), List.filter_nil]
      have hstatus' : Chronological ((status.filter fun e => t < e.time) ++ [a]) :=
        hrest ▸ hstatus.filter _
      have hmem' : ∀ e ∈ log.filter fun e => t < e.time, e.time ∈ ts := by
        intro e he
        obtain ⟨he, hlate⟩ := List.mem_filter.1 he
        obtain heq | hin := List.mem_cons.1 (hmem e he)
        · simp [heq] at hlate
        · exact hin
      obtain ⟨before, hbefore, hsource⟩ := ih hts (!flag) hstatus' (hlog.filter _) hin hmem'
      rw [weave_cons hstatus hlog, hrest, hbefore, filter_comesAfter_later hlt,
        ← List.append_assoc]
      refine ⟨_, rfl, ?_⟩
      intro e he
      obtain he | he := List.mem_append.1 he
      · obtain he | he := mem_turn.1 he
        · have hearly : e.time ≤ t := by simpa using List.mem_takeWhile_imp he
          obtain he | he := List.mem_append.1 ((List.takeWhile_prefix _).subset he)
          · exact Or.inl he
          · rw [List.mem_singleton.1 he] at hearly
            omega
        · exact Or.inr ((List.takeWhile_prefix _).subset he)
      · obtain he | he := hsource e he
        · exact Or.inl (List.mem_filter.1 he).1
        · exact Or.inr (List.mem_filter.1 he).1

end DeployWizard.Monitor
