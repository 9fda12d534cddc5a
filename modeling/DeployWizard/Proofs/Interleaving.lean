import Mathlib.Data.List.Sort
import DeployWizard.Proofs.Weaving

set_option autoImplicit false

/-!
The woven stream turn by turn. Each side keeps its order in it, what holds of the events in pairs is
found turn by turn, and what it is before a time depends only on the sides before that time.
-/
namespace DeployWizard.Monitor

variable {α : Type}

theorem takeWhile_eq_filter (key : α → Nat) {l : List α}
    (h : l.Pairwise fun x y => key x ≤ key y) (t : Nat) :
    l.takeWhile (key · ≤ t) = l.filter (key · ≤ t) := by
  induction l with
  | nil => rfl
  | cons a l ih =>
    obtain ⟨hfirst, hrest⟩ := List.pairwise_cons.1 h
    by_cases hle : key a ≤ t
    · rw [List.takeWhile_cons_of_pos (by simpa using hle), ih hrest,
        List.filter_cons_of_pos (by simpa using hle)]
    · rw [List.takeWhile_cons_of_neg (by simpa using hle), eq_comm, List.filter_eq_nil_iff]
      intro x hx
      have hlater : key a ≤ key x := by
        obtain rfl | hx := List.mem_cons.1 hx
        · exact Nat.le_refl _
        · exact hfirst x hx
      simp only [decide_eq_true_eq]
      omega

def atTime (events : List (Timed α)) (t : Nat) : List (Timed α) :=
  events.filter (·.time = t)

theorem mem_atTime {events : List (Timed α)} {t : Nat} {e : Timed α} :
    e ∈ atTime events t ↔ e ∈ events ∧ e.time = t := by
  simp [atTime]

theorem atTime_filter_later {events : List (Timed α)} {t u : Nat} (h : t < u) :
    atTime (events.filter fun e => t < e.time) u = atTime events u := by
  rw [atTime, List.filter_filter]
  apply List.filter_congr
  intro e _
  by_cases heq : e.time = u
  · simp [heq, h]
  · simp [heq]

theorem takeWhile_eq_atTime {events : List (Timed α)} (h : Chronological events) {t : Nat}
    {ts : List Nat} (hts : ∀ u ∈ ts, t < u) (hmem : ∀ e ∈ events, e.time ∈ t :: ts) :
    events.takeWhile (·.time ≤ t) = atTime events t := by
  refine (takeWhile_eq_filter Timed.time h t).trans ?_
  apply List.filter_congr
  intro e he
  obtain heq | hin := List.mem_cons.1 (hmem e he)
  · simp [heq]
  · have hlater := hts _ hin
    simp only [decide_eq_decide]
    omega

/-- The turns are in order, and each side wakes at all times at which it reports. -/
structure Turns (ts : List Nat) (status log : List (Timed α)) : Prop where
  ascending : ts.Pairwise (· < ·)
  status_chronological : Chronological status
  log_chronological : Chronological log
  status_awake : ∀ e ∈ status, e.time ∈ ts
  log_awake : ∀ e ∈ log, e.time ∈ ts

variable {flag : Bool} {ts : List Nat} {status log : List (Timed α)}

theorem Turns.tail {t : Nat} (h : Turns (t :: ts) status log) :
    Turns ts (status.filter fun e => t < e.time) (log.filter fun e => t < e.time) := by
  have hlater : ∀ {events : List (Timed α)}, (∀ e ∈ events, e.time ∈ t :: ts) →
      ∀ e ∈ events.filter fun e => t < e.time, e.time ∈ ts := by
    intro events hmem e he
    obtain ⟨he, hlate⟩ := List.mem_filter.1 he
    obtain heq | hin := List.mem_cons.1 (hmem e he)
    · simp [heq] at hlate
    · exact hin
  exact ⟨h.ascending.tail, h.status_chronological.filter _, h.log_chronological.filter _,
    hlater h.status_awake, hlater h.log_awake⟩

theorem weave_eq_flatMap (h : Turns ts status log) (flag : Bool) :
    weave flag ts status log =
      ts.flatMap fun t => turn (flag == statusLeads ts t) (atTime status t) (atTime log t) := by
  induction ts generalizing flag status log with
  | nil =>
    have hstatus : status = [] := List.eq_nil_iff_forall_not_mem.2 fun e he =>
      List.not_mem_nil (h.status_awake e he)
    have hlog : log = [] := List.eq_nil_iff_forall_not_mem.2 fun e he =>
      List.not_mem_nil (h.log_awake e he)
    rw [hstatus, hlog]
    rfl
  | cons t ts ih =>
    have hlater := (List.pairwise_cons.1 h.ascending).1
    rw [weave_cons h.status_chronological h.log_chronological,
      takeWhile_eq_atTime h.status_chronological hlater h.status_awake,
      takeWhile_eq_atTime h.log_chronological hlater h.log_awake, ih h.tail, List.flatMap_cons,
      statusLeads_cons_self hlater]
    congr 1
    · cases flag <;> rfl
    · apply List.flatMap_congr
      intro u hu
      rw [atTime_filter_later (hlater u hu), atTime_filter_later (hlater u hu),
        statusLeads_cons (hlater u hu).le]
      cases flag <;> cases statusLeads ts u <;> rfl

theorem sublist_turn (flag : Bool) (status log : List (Timed α)) :
    status.Sublist (turn flag status log) ∧ log.Sublist (turn flag status log) := by
  cases flag with
  | true => exact ⟨List.sublist_append_left _ _, List.sublist_append_right _ _⟩
  | false => exact ⟨List.sublist_append_right _ _, List.sublist_append_left _ _⟩

theorem sublist_weave (flag : Bool) (ts : List Nat) (status log : List (Timed α)) :
    status.Sublist (weave flag ts status log) ∧ log.Sublist (weave flag ts status log) := by
  induction ts generalizing flag status log with
  | nil => exact ⟨List.sublist_append_left _ _, List.sublist_append_right _ _⟩
  | cons t ts ih =>
    have hsplit : ∀ events : List (Timed α),
        events.takeWhile (·.time ≤ t) ++ events.dropWhile (·.time ≤ t) = events :=
      fun events => List.takeWhile_append_dropWhile
    have hnow := sublist_turn flag (status.takeWhile (·.time ≤ t)) (log.takeWhile (·.time ≤ t))
    have hrest := ih (!flag) (status.dropWhile (·.time ≤ t)) (log.dropWhile (·.time ≤ t))
    have hstatus := hnow.1.append hrest.1
    have hlog := hnow.2.append hrest.2
    rw [hsplit] at hstatus hlog
    rw [weave, drop_length_takeWhile, drop_length_takeWhile]
    exact ⟨hstatus, hlog⟩

theorem turn_perm (flag : Bool) (status log : List (Timed α)) :
    (turn flag status log).Perm (status ++ log) := by
  cases flag with
  | true => exact List.Perm.refl _
  | false => exact List.perm_append_comm

theorem weave_perm (flag : Bool) (ts : List Nat) (status log : List (Timed α)) :
    (weave flag ts status log).Perm (status ++ log) := by
  induction ts generalizing flag status log with
  | nil => exact List.Perm.refl _
  | cons t ts ih =>
    let before := status.takeWhile (·.time ≤ t)
    let after := status.dropWhile (·.time ≤ t)
    let before' := log.takeWhile (·.time ≤ t)
    let after' := log.dropWhile (·.time ≤ t)
    have hstatus : before ++ after = status := List.takeWhile_append_dropWhile
    have hlog : before' ++ after' = log := List.takeWhile_append_dropWhile
    have hsame : weave flag (t :: ts) status log =
        turn flag before before' ++ weave (!flag) ts after after' := by
      rw [weave, drop_length_takeWhile, drop_length_takeWhile]
      rfl
    calc
      (weave flag (t :: ts) status log).Perm ((before ++ before') ++ (after ++ after')) :=
        hsame ▸ (turn_perm flag before before').append (ih (!flag) after after')
      List.Perm _ ((before ++ after) ++ (before' ++ after')) := by
        rw [List.append_assoc, List.append_assoc]
        exact List.perm_append_comm_assoc before' after after' |>.append_left before
      _ = status ++ log := by rw [hstatus, hlog]

section Parts
variable {β : Type} {l part other : List α}

theorem filterMap_of_parts (hsub : part.Sublist l) (hperm : l.Perm (part ++ other))
    {f : α → Option β} (hother : ∀ x ∈ other, f x = none) :
    l.filterMap f = part.filterMap f := by
  have hlength := (hperm.filterMap f).length_eq
  rw [List.filterMap_append, List.filterMap_eq_nil_iff.2 hother, List.append_nil] at hlength
  exact ((hsub.filterMap f).eq_of_length hlength.symm).symm

theorem filter_of_parts (hsub : part.Sublist l) (hperm : l.Perm (part ++ other)) {p : α → Bool}
    (hother : ∀ x ∈ other, p x = false) : l.filter p = part.filter p := by
  rw [← List.filterMap_eq_filter]
  apply filterMap_of_parts hsub hperm
  intro x hx
  simp [Option.guard, hother x hx]

end Parts

theorem filterMap_weave {β : Type} {f : Timed α → Option β} (hlog : ∀ e ∈ log, f e = none) :
    (weave flag ts status log).filterMap f = status.filterMap f :=
  filterMap_of_parts (sublist_weave flag ts status log).1 (weave_perm flag ts status log) hlog

theorem filter_weave {p : Timed α → Bool} (hlog : ∀ e ∈ log, p e = false) :
    (weave flag ts status log).filter p = status.filter p :=
  filter_of_parts (sublist_weave flag ts status log).1 (weave_perm flag ts status log) hlog

theorem filter_weave_log {p : Timed α → Bool} (hstatus : ∀ e ∈ status, p e = false) :
    (weave flag ts status log).filter p = log.filter p :=
  filter_of_parts (sublist_weave flag ts status log).2
    ((weave_perm flag ts status log).trans List.perm_append_comm) hstatus

theorem Chronological.related {events : List (Timed α)} (h : Chronological events)
    {R : Timed α → Timed α → Prop} (hR : events.Pairwise R) {x y : Timed α}
    (hx : x ∈ events) (hy : y ∈ events) (hlt : x.time < y.time) : R x y := by
  obtain ⟨i, hi, rfl⟩ := List.mem_iff_getElem.1 hx
  obtain ⟨j, hj, rfl⟩ := List.mem_iff_getElem.1 hy
  obtain hij | rfl | hji := Nat.lt_trichotomy i j
  · exact List.pairwise_iff_getElem.1 hR i j hi hj hij
  · exact absurd hlt (Nat.lt_irrefl _)
  · have hle := List.pairwise_iff_getElem.1 h j i hj hi hji
    omega

/-- What holds of each side in pairs, and between the sides as they take turns, holds of the woven
stream in pairs. -/
theorem weave_pairwise (h : Turns ts status log) {R : Timed α → Timed α → Prop}
    (hstatus : status.Pairwise R) (hlog : log.Pairwise R)
    (hafter : ∀ s ∈ status, ∀ l ∈ log, comesAfter flag ts s.time l = true → R s l)
    (hbefore : ∀ s ∈ status, ∀ l ∈ log, comesAfter flag ts s.time l = false → R l s) :
    (weave flag ts status log).Pairwise R := by
  -- Events of different turns are related by time alone, those of one turn by who leads in it.
  have hcross : ∀ t u, t < u → ∀ x ∈ turn (flag == statusLeads ts t) (atTime status t)
      (atTime log t), ∀ y ∈ turn (flag == statusLeads ts u) (atTime status u) (atTime log u),
      R x y := by
    intro t u htu x hx y hy
    rw [mem_turn, mem_atTime, mem_atTime] at hx hy
    rcases hx with ⟨hx, rfl⟩ | ⟨hx, rfl⟩ <;> rcases hy with ⟨hy, rfl⟩ | ⟨hy, rfl⟩
    · exact h.status_chronological.related hstatus hx hy htu
    · exact hafter x hx y hy (by simp [comesAfter, htu])
    · exact hbefore y hy x hx (by simp [comesAfter, htu.le, htu.ne])
    · exact h.log_chronological.related hlog hx hy htu
  rw [weave_eq_flatMap h, List.pairwise_flatMap]
  refine ⟨?_, h.ascending.imp fun {t u} htu => hcross t u htu⟩
  intro t _
  have hsame : ∀ s ∈ atTime status t, ∀ l ∈ atTime log t,
      comesAfter flag ts s.time l = (flag == statusLeads ts t) := by
    intro s hs l hl
    simp [comesAfter, (mem_atTime.1 hs).2, (mem_atTime.1 hl).2]
  cases hleads : flag == statusLeads ts t with
  | true =>
    refine List.pairwise_append.2 ⟨hstatus.filter _, hlog.filter _, ?_⟩
    intro s hs l hl
    exact hafter s (mem_atTime.1 hs).1 l (mem_atTime.1 hl).1 ((hsame s hs l hl).trans hleads)
  | false =>
    refine List.pairwise_append.2 ⟨hlog.filter _, hstatus.filter _, ?_⟩
    intro l hl s hs
    exact hbefore s (mem_atTime.1 hs).1 l (mem_atTime.1 hl).1 ((hsame s hs l hl).trans hleads)

theorem filter_eq_of_mem_iff {ts us : List Nat} (hts : ts.Pairwise (· < ·))
    (hus : us.Pairwise (· < ·)) {p : Nat → Bool} (h : ∀ t, p t → (t ∈ ts ↔ t ∈ us)) :
    ts.filter p = us.filter p := by
  apply (hts.filter p).eq_of_mem_iff (hus.filter p)
  intro t
  simp only [List.mem_filter]
  exact and_congr_left (h t)

theorem statusLeads_eq_filter {ts : List Nat} (hts : ts.Pairwise (· < ·)) (time : Nat) :
    statusLeads ts time = decide ((ts.filter (· ≤ time)).length % 2 = 1) := by
  have hprefix : ts.takeWhile (· ≤ time) = ts.filter (· ≤ time) :=
    takeWhile_eq_filter (fun t => t) (hts.imp Nat.le_of_lt) time
  rw [statusLeads, hprefix]

theorem statusLeads_congr {ts us : List Nat} (hts : ts.Pairwise (· < ·))
    (hus : us.Pairwise (· < ·)) {time : Nat} (h : ∀ t ≤ time, t ∈ ts ↔ t ∈ us) :
    statusLeads ts time = statusLeads us time := by
  rw [statusLeads_eq_filter hts, statusLeads_eq_filter hus,
    filter_eq_of_mem_iff hts hus fun t ht => h t (by simpa using ht)]

theorem mem_of_mem_distinctAfter {last t : Nat} {ts : List Nat} (h : t ∈ distinctAfter last ts) :
    t ∈ ts := by
  fun_induction distinctAfter last ts with
  | case1 => exact h
  | case2 last x xs _ ih => exact List.mem_cons_of_mem x (ih h)
  | case3 last x xs _ ih =>
    obtain rfl | h := List.mem_cons.1 h
    · exact List.mem_cons_self
    · exact List.mem_cons_of_mem x (ih h)

theorem mem_turns_iff {status log : List Nat} (hstatus : status.Pairwise (· ≤ ·))
    (hlog : log.Pairwise (· ≤ ·)) {t : Nat} :
    t ∈ turns status log ↔ t = 0 ∨ t ∈ status ∨ t ∈ log := by
  constructor
  · intro h
    obtain rfl | h := List.mem_cons.1 h
    · exact Or.inl rfl
    · exact Or.inr (List.mem_merge.1 (mem_of_mem_distinctAfter h))
  · intro h
    apply mem_turns hstatus hlog
    rcases h with rfl | h | h
    · exact Or.inl List.mem_cons_self
    · exact Or.inl (List.mem_cons_of_mem 0 h)
    · exact Or.inr (List.mem_cons_of_mem 0 h)

theorem flatMap_filter_of_nil {β : Type} {l : List α} {p : α → Bool} {f : α → List β}
    (h : ∀ a ∈ l, p a = false → f a = []) : (l.filter p).flatMap f = l.flatMap f := by
  induction l with
  | nil => rfl
  | cons a l ih =>
    have hrest := ih fun x hx => h x (List.mem_cons_of_mem a hx)
    cases hp : p a with
    | true => rw [List.filter_cons_of_pos hp, List.flatMap_cons, List.flatMap_cons, hrest]
    | false =>
      rw [List.filter_cons_of_neg (by simp [hp]), List.flatMap_cons,
        h a List.mem_cons_self hp, hrest, List.nil_append]

theorem flatMap_sublist {β : Type} {l : List α} {f g : α → List β}
    (h : ∀ a ∈ l, (f a).Sublist (g a)) : (l.flatMap f).Sublist (l.flatMap g) := by
  induction l with
  | nil => exact List.Sublist.refl _
  | cons a l ih =>
    rw [List.flatMap_cons, List.flatMap_cons]
    exact (h a List.mem_cons_self).append (ih fun x hx => h x (List.mem_cons_of_mem a hx))

theorem filter_turn (flag : Bool) (status log : List (Timed α)) (p : Timed α → Bool) :
    (turn flag status log).filter p = turn flag (status.filter p) (log.filter p) := by
  cases flag <;> exact List.filter_append _ _

theorem filter_atTime (events : List (Timed α)) (t : Nat) (p : Timed α → Bool) :
    (atTime events t).filter p = atTime (events.filter p) t :=
  List.filter_comm p _ events

section Kept
variable {β : Type} {f : Timed α → Option (Timed β)}

theorem filterMap_turn (flag : Bool) (status log : List (Timed α)) :
    (turn flag status log).filterMap f = turn flag (status.filterMap f) (log.filterMap f) := by
  cases flag <;> exact List.filterMap_append

theorem filterMap_atTime (hf : ∀ x, ∀ y ∈ f x, y.time = x.time) (events : List (Timed α))
    (t : Nat) : (atTime events t).filterMap f = atTime (events.filterMap f) t := by
  rw [atTime, atTime, List.filterMap_filter, List.filter_filterMap]
  apply List.filterMap_congr
  intro x _
  cases hx : f x with
  | none => simp
  | some y => simp [Option.filter_some, hf x y hx]

theorem Turns.filterMap (h : Turns ts status log) (hf : ∀ x, ∀ y ∈ f x, y.time = x.time) :
    Turns ts (status.filterMap f) (log.filterMap f) := by
  have hchronological : ∀ {events : List (Timed α)}, Chronological events →
      Chronological (events.filterMap f) := fun hevents =>
    hevents.filterMap f fun x x' hle y hy y' hy' => by
      rw [hf x y hy, hf x' y' hy']
      exact hle
  have hawake : ∀ {events : List (Timed α)}, (∀ e ∈ events, e.time ∈ ts) →
      ∀ e ∈ events.filterMap f, e.time ∈ ts := by
    intro events hmem y hy
    obtain ⟨x, hx, hy⟩ := List.mem_filterMap.1 hy
    rw [hf x y hy]
    exact hmem x hx
  exact ⟨h.ascending, hchronological h.status_chronological, hchronological h.log_chronological,
    hawake h.status_awake, hawake h.log_awake⟩

/-- What is kept of the woven stream with its times is woven of what is kept of the sides. -/
theorem weave_filterMap (h : Turns ts status log) (hf : ∀ x, ∀ y ∈ f x, y.time = x.time)
    (flag : Bool) :
    (weave flag ts status log).filterMap f =
      weave flag ts (status.filterMap f) (log.filterMap f) := by
  rw [weave_eq_flatMap h, weave_eq_flatMap (h.filterMap hf), List.filterMap_flatMap]
  simp only [filterMap_turn, filterMap_atTime hf]

end Kept

theorem atTime_eq_nil {events : List (Timed α)} {t T : Nat} (h : T ≤ t) :
    atTime (events.filter (·.time < T)) t = [] := by
  rw [List.eq_nil_iff_forall_not_mem]
  intro e he
  obtain ⟨he, htime⟩ := mem_atTime.1 he
  have hearly : e.time < T := by simpa using (List.mem_filter.1 he).2
  omega

/-- The woven stream before a time depends on the turns and on what the sides report before it. -/
theorem filter_weave_congr {us : List Nat} {status' log' : List (Timed α)} {T : Nat}
    (h : Turns ts status log) (h' : Turns us status' log') (flag : Bool)
    (hturns : ∀ t < T, t ∈ ts ↔ t ∈ us)
    (hstatus : status.filter (·.time < T) = status'.filter (·.time < T))
    (hlog : log.filter (·.time < T) = log'.filter (·.time < T)) :
    (weave flag ts status log).filter (·.time < T) =
      (weave flag us status' log').filter (·.time < T) := by
  have hearly : ∀ {ts : List Nat} {status log : List (Timed α)}, Turns ts status log →
      (weave flag ts status log).filter (·.time < T) = (ts.filter (· < T)).flatMap fun t =>
        turn (flag == statusLeads ts t) (atTime (status.filter (·.time < T)) t)
          (atTime (log.filter (·.time < T)) t) := by
    intro ts status log h
    rw [weave_eq_flatMap h, List.filter_flatMap, flatMap_filter_of_nil]
    · simp only [filter_turn, filter_atTime]
    · intro t _ hlate
      have hlate : T ≤ t := by simpa using hlate
      simp [atTime_eq_nil hlate, turn]
  rw [hearly h, hearly h', hstatus, hlog,
    filter_eq_of_mem_iff h.ascending h'.ascending fun t ht => hturns t (by simpa using ht)]
  apply List.flatMap_congr
  intro t ht
  have ht : t < T := by simpa using (List.mem_filter.1 ht).2
  rw [statusLeads_congr h.ascending h'.ascending fun u hu => hturns u (hu.trans_lt ht)]

end DeployWizard.Monitor
