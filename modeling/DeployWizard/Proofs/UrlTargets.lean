import Mathlib.Data.List.DropRight
import Mathlib.Tactic.Common
import DeployWizard.Url.Basic
import DeployWizard.Proofs.PercentDecoding

set_option autoImplicit false

namespace DeployWizard

namespace Url
open Text

def IsSegment (cs : List Char) : Prop :=
  ∀ c ∈ cs, keptInPath c = true ∧ c ≠ '/' ∧ c ≠ '\\'

instance (cs : List Char) : Decidable (IsSegment cs) :=
  List.decidableBAll (fun c => keptInPath c = true ∧ c ≠ '/' ∧ c ≠ '\\') cs

def IsQuery (cs : List Char) : Prop :=
  cs = [] ∨ ∃ q, cs = '?' :: q ∧ ∀ c ∈ q, keptInQuery c = true

theorem IsSegment.encode_eq {cs : List Char} (h : IsSegment cs) :
    Percent.encode keptInPath cs = cs :=
  Percent.encode_eq_self fun c hc => (h c hc).1

theorem keptInPath_ne {c : Char} (h : keptInPath c = true) : c ≠ '#' ∧ c ≠ '?' := by
  constructor <;> rintro rfl <;> exact absurd h (by decide)

theorem lt_of_keptInPath {c : Char} (h : keptInPath c = true) : 0x20 < c.toNat := by
  simp only [keptInPath, Bool.and_eq_true, decide_eq_true_eq, and_assoc] at h
  exact h.1

theorem lt_of_keptInQuery {c : Char} (h : keptInQuery c = true) : 0x20 < c.toNat := by
  simp only [keptInQuery, Bool.and_eq_true, decide_eq_true_eq, and_assoc] at h
  exact h.1

theorem keptInQuery_ne {c : Char} (h : keptInQuery c = true) : c ≠ '#' := by
  rintro rfl
  exact absurd h (by decide)

theorem keptInQuery_of_isDigit {c : Char} (h : c.isDigit = true) : keptInQuery c = true := by
  have hrange : 48 ≤ c.toNat ∧ c.toNat ≤ 57 := by
    simpa [Char.isDigit, UInt32.le_iff_toNat_le] using h
  have hne (d : Char) (hd : d.toNat < 48 ∨ 57 < d.toNat) : c ≠ d := by
    rintro rfl
    omega
  simp only [keptInQuery, Bool.and_eq_true, decide_eq_true_eq, and_assoc]
  exact ⟨by omega, by omega, hne _ (by decide), hne _ (by decide), hne _ (by decide),
    hne _ (by decide), hne _ (by decide)⟩

theorem resolve_eq {ss : List (List Char)} (hss : ss ≠ []) (hsegment : ∀ s ∈ ss, IsSegment s)
    (hdots : ∀ s ∈ ss, isDot s = false ∧ isDoubleDot s = false) (done : List (List Char)) :
    resolve done ss = done.reverse ++ ss := by
  induction ss generalizing done with
  | nil => exact absurd rfl hss
  | cons s ss ih =>
    obtain ⟨hdot, hdouble⟩ := hdots s List.mem_cons_self
    have hsame := (hsegment s List.mem_cons_self).encode_eq
    cases ss with
    | nil => simp [resolve, hdot, hdouble, hsame]
    | cons t ts =>
      have hrest := ih (List.cons_ne_nil t ts) (fun u hu => hsegment u (List.mem_cons_of_mem _ hu))
        (fun u hu => hdots u (List.mem_cons_of_mem _ hu)) (s :: done)
      simpa [resolve, hdot, hdouble, hsame] using hrest

theorem IsQuery.ne_fragment {cs : List Char} (h : IsQuery cs) : ∀ c ∈ cs, c ≠ '#' := by
  obtain rfl | ⟨q, rfl, hq⟩ := h
  · exact fun c hc => absurd hc List.not_mem_nil
  · rintro c (_ | ⟨_, hc⟩)
    · decide
    · exact keptInQuery_ne (hq c hc)

theorem IsQuery.takeWhile_eq {cs : List Char} (h : IsQuery cs) :
    cs.takeWhile (· ≠ '?') = [] ∧ cs.dropWhile (· ≠ '?') = cs := by
  obtain rfl | ⟨q, rfl, -⟩ := h
  · exact ⟨rfl, rfl⟩
  · exact ⟨rfl, rfl⟩

theorem targetOf_append {path query : List Char}
    (hpath : ∀ c ∈ path, c ≠ '#' ∧ c ≠ '?' ∧ c ≠ '\\') (hquery : IsQuery query) :
    targetOf ('/' :: path ++ query) =
      (resolve [] (fields '/' path)).flatMap ('/' :: ·) ++ query := by
  have hall : ∀ c ∈ '/' :: path, c ≠ '#' ∧ c ≠ '?' ∧ c ≠ '\\' := by
    rintro c (_ | ⟨_, hc⟩)
    · decide
    · exact hpath c hc
  have hfragment : ('/' :: path ++ query).takeWhile (· ≠ '#') = '/' :: path ++ query := by
    refine List.takeWhile_eq_self_iff.2 fun c hc => decide_eq_true ?_
    obtain hc | hc := List.mem_append.1 hc
    · exact (hall c hc).1
    · exact hquery.ne_fragment c hc
  have hmark : ∀ c ∈ '/' :: path, decide (c ≠ '?') = true := fun c hc =>
    decide_eq_true (hall c hc).2.1
  have hbefore : ('/' :: path ++ query).takeWhile (· ≠ '?') = '/' :: path := by
    rw [List.takeWhile_append_of_pos hmark, hquery.takeWhile_eq.1, List.append_nil]
  have hafter : ('/' :: path ++ query).dropWhile (· ≠ '?') = query := by
    rw [List.dropWhile_append_of_pos hmark, hquery.takeWhile_eq.2]
  have hslashes : ('/' :: path).map (fun c => if c = '\\' then '/' else c) = '/' :: path :=
    (List.map_congr_left fun c hc => if_neg (hall c hc).2.2).trans (List.map_id _)
  unfold targetOf
  dsimp only
  rw [hfragment, hbefore, hafter, hslashes, if_pos (List.head?_cons ..), List.tail_cons]
  obtain rfl | ⟨q, rfl, hq⟩ := hquery
  · rfl
  · simp only [Percent.encode_eq_self hq]

/-- The target of segments and a query: only the dots among the segments are resolved. -/
theorem targetOf_joined {s : List Char} {ss : List (List Char)} {query : List Char}
    (hsegment : ∀ t ∈ s :: ss, IsSegment t) (hquery : IsQuery query) :
    targetOf ((s :: ss).flatMap ('/' :: ·) ++ query) =
      (resolve [] (s :: ss)).flatMap ('/' :: ·) ++ query := by
  have hfields : fields '/' (s ++ ss.flatMap ('/' :: ·)) = s :: ss :=
    fields_joined fun t ht hslash => (hsegment t ht '/' hslash).2.1 rfl
  have hpath : ∀ c ∈ s ++ ss.flatMap ('/' :: ·), c ≠ '#' ∧ c ≠ '?' ∧ c ≠ '\\' := by
    intro c hc
    have hc : c ∈ (s :: ss).flatMap ('/' :: ·) := List.mem_cons_of_mem '/' hc
    obtain ⟨t, ht, hc⟩ := List.mem_flatMap.1 hc
    obtain rfl | hc := List.mem_cons.1 hc
    · decide
    · obtain ⟨hkept, -, hback⟩ := hsegment t ht c hc
      exact ⟨(keptInPath_ne hkept).1, (keptInPath_ne hkept).2, hback⟩
  rw [List.flatMap_cons, List.cons_append, targetOf_append hpath hquery, hfields]

def counts (c : Char) : Bool :=
  c ≠ '\t' && c ≠ '\n' && c ≠ '\r'

structure IsHostText (cs : List Char) : Prop where
  present : ∃ c ∈ cs, counts c = true
  closed : ∀ c ∈ cs, endsAuthority true c = false

theorem isHostText_of_any {cs : List Char} (hpresent : cs.any counts = true)
    (hclosed : cs.any (endsAuthority true) = false) : IsHostText cs where
  present := List.any_eq_true.1 hpresent
  closed c hc := Bool.eq_false_iff.2 (List.any_eq_false.1 hclosed c hc)

def below (host tail : List Char) : List Char :=
  ['h', 't', 't', 'p', ':', '/', '/'] ++ (host ++ '/' :: tail)

theorem counts_of_lt {c : Char} (h : 0x20 < c.toNat) : counts c = true := by
  simp only [counts, Bool.and_eq_true, decide_eq_true_eq]
  refine ⟨⟨?_, ?_⟩, ?_⟩ <;> rintro rfl <;> exact absurd h (by decide)

theorem clean_below {host tail : List Char} (htail : ∀ c ∈ tail, 0x20 < c.toNat) :
    clean (below host tail) = below (host.filter counts) tail := by
  have htail' : ∀ c ∈ '/' :: tail, 0x20 < c.toNat := by
    rintro c (_ | ⟨_, hc⟩)
    · decide
    · exact htail c hc
  have hfront : (below host tail).dropWhile (fun c => c.toNat ≤ 0x20) = below host tail := rfl
  have hback : (below host tail).rdropWhile (fun c => c.toNat ≤ 0x20) = below host tail := by
    rw [List.rdropWhile_eq_self_iff]
    intro hne
    have hlast : (below host tail).getLast hne ∈ '/' :: tail := by
      simp only [below, ← List.append_assoc, List.getLast_append_of_ne_nil _ (List.cons_ne_nil _ _)]
      exact List.getLast_mem _
    have hprinted := htail' _ hlast
    rw [decide_eq_true_eq]
    omega
  have hkept : ('/' :: tail).filter counts = '/' :: tail :=
    List.filter_eq_self.2 fun c hc => counts_of_lt (htail' c hc)
  calc
    clean (below host tail) = (below host tail).filter counts := by
      change ((((below host tail).dropWhile (fun c => c.toNat ≤ 0x20)).rdropWhile
        (fun c => c.toNat ≤ 0x20)).filter counts) = _
      rw [hfront, hback]
    _ = below (host.filter counts) tail := by
      rw [below, List.filter_append, List.filter_append, hkept]
      rfl

theorem dropWhile_isSlash {cs rest : List Char} (hne : cs ≠ [])
    (h : ∀ c ∈ cs, endsAuthority true c = false) :
    ('/' :: '/' :: (cs ++ rest)).dropWhile isSlash = cs ++ rest := by
  cases cs with
  | nil => exact absurd rfl hne
  | cons c cs =>
    have hc := h c List.mem_cons_self
    have hslash : isSlash c = false := by
      simp only [endsAuthority, isSlash, Bool.or_eq_false_iff, Bool.true_and] at hc ⊢
      exact ⟨hc.1.1.1, hc.2⟩
    simp [hslash, show isSlash '/' = true from rfl]

theorem target_of_host {host tail : List Char} {u : Url} {target : String}
    (hhost : IsHostText host) (htail : ∀ c ∈ tail, 0x20 < c.toNat)
    (hu : parse? (String.ofList (below host tail)) = some u) (htarget : u.target = some target) :
    target = String.ofList (targetOf ('/' :: tail)) := by
  obtain ⟨c, hc, hcounts⟩ := hhost.present
  have hne : host.filter counts ≠ [] :=
    List.ne_nil_of_mem (List.mem_filter.2 ⟨hc, hcounts⟩)
  have hclosed : ∀ c ∈ host.filter counts, endsAuthority true c = false := fun c hc =>
    hhost.closed c (List.mem_of_mem_filter hc)
  have hopen : ∀ c ∈ host.filter counts, (!endsAuthority true c) = true := fun c hc => by
    rw [hclosed c hc, Bool.not_false]
  have hafter : (host.filter counts ++ '/' :: tail).dropWhile (fun c => !endsAuthority true c) =
      '/' :: tail := by
    rw [List.dropWhile_append_of_pos hopen]
    rfl
  have hsplit : splitScheme? (clean (below host tail)) =
      some ("http", '/' :: '/' :: (host.filter counts ++ '/' :: tail)) := by
    rw [clean_below htail]
    rfl
  have hweb : isWeb "http" = true := by decide
  rw [parse?, String.toList_ofList, hsplit] at hu
  simp only [Option.bind_eq_bind, Option.bind_some, hweb, if_true, dropWhile_isSlash hne hclosed,
    hafter] at hu
  split at hu
  next =>
    have hreached := Option.some.inj hu
    rw [← hreached] at htarget
    dsimp only at htarget
    split at htarget
    next => exact (Option.some.inj htarget).symm
    next => cases htarget
  next => cases hu

theorem length_le_of_target {s target : String} {u : Url} (hu : parse? s = some u)
    (htarget : u.target = some target) : target.length ≤ maxLength := by
  have hother (scheme : String) : some ⟨scheme, none⟩ ≠ some u := by
    intro h
    rw [← Option.some.inj h] at htarget
    cases htarget
  obtain ⟨⟨scheme, rest⟩, -, hu⟩ := Option.bind_eq_some_iff.1 hu
  dsimp only at hu
  -- Only a web URL has a target, and its length is checked then.
  split at hu
  next =>
    split at hu
    next =>
      rw [← Option.some.inj hu] at htarget
      dsimp only at htarget
      split at htarget
      next hreach =>
        rw [← Option.some.inj htarget, String.length_ofList]
        rw [isReachable, Bool.and_eq_true, decide_eq_true_eq] at hreach
        omega
      next => cases htarget
    next => cases hu
  next =>
    split at hu
    next =>
      split at hu
      next =>
        split at hu
        next => cases hu
        next => exact absurd hu (hother _)
      next => exact absurd hu (hother _)
    next =>
      split at hu
      next =>
        split at hu
        next => exact absurd hu (hother _)
        next => cases hu
      next => exact absurd hu (hother _)

theorem target_of_segments {host s : List Char} {ss : List (List Char)} {query : List Char}
    {u : Url} {target : String} (hhost : IsHostText host) (hsegment : ∀ t ∈ s :: ss, IsSegment t)
    (hquery : IsQuery query)
    (hu : parse? (String.ofList (below host (s ++ ss.flatMap ('/' :: ·) ++ query))) = some u)
    (htarget : u.target = some target) :
    target = String.ofList ((resolve [] (s :: ss)).flatMap ('/' :: ·) ++ query) := by
  have hprinted : ∀ c ∈ (s :: ss).flatMap ('/' :: ·) ++ query, 0x20 < c.toNat := by
    intro c hc
    obtain hc | hc := List.mem_append.1 hc
    · obtain ⟨t, ht, hc⟩ := List.mem_flatMap.1 hc
      obtain rfl | hc := List.mem_cons.1 hc
      · decide
      · exact lt_of_keptInPath (hsegment t ht c hc).1
    · obtain rfl | ⟨q, rfl, hq⟩ := hquery
      · cases hc
      · obtain rfl | hc := List.mem_cons.1 hc
        · decide
        · exact lt_of_keptInQuery (hq c hc)
  rw [target_of_host hhost (fun c hc => hprinted c (List.mem_cons_of_mem _ hc)) hu htarget]
  exact congrArg _ (targetOf_joined hsegment hquery)

theorem isSegment_encode (cs : List Char) :
    IsSegment (Percent.encode Percent.isUnreserved cs) := by
  intro c hc
  have hstays : isAsciiAlphanumeric c = true ∨ c ∈ ['-', '_', '.', '~', '%'] := by
    have h := Percent.mem_encode hc
    simp only [Percent.isUnreserved, Bool.or_eq_true, decide_eq_true_eq] at h
    simp only [List.mem_cons, List.not_mem_nil, or_false]
    tauto
  obtain halpha | hmark := hstays
  · simp only [isAsciiAlphanumeric, isAsciiLetter, isAsciiDigit, Bool.or_eq_true, Bool.and_eq_true,
      decide_eq_true_eq] at halpha
    have hne (d : Char) (hd : isAsciiAlphanumeric d = false) : c ≠ d := by
      rintro rfl
      simp only [isAsciiAlphanumeric, isAsciiLetter, isAsciiDigit, Bool.or_eq_false_iff,
        Bool.and_eq_false_iff, decide_eq_false_iff_not] at hd
      omega
    refine ⟨?_, hne '/' rfl, hne '\\' rfl⟩
    simp only [keptInPath, Bool.and_eq_true, decide_eq_true_eq, and_assoc]
    exact ⟨by omega, by omega, hne _ rfl, hne _ rfl, hne _ rfl, hne _ rfl, hne _ rfl, hne _ rfl,
      hne _ rfl, hne _ rfl⟩
  · simp only [List.mem_cons, List.not_mem_nil, or_false] at hmark
    obtain rfl | rfl | rfl | rfl | rfl := hmark <;> decide

theorem decode_of_afterDot? {cs rest : List Char} (h : afterDot? cs = some rest) :
    Percent.decode cs = 0x2E :: Percent.decode rest := by
  unfold afterDot? at h
  split at h
  next => rw [← Option.some.inj h]; rfl
  next => rw [← Option.some.inj h]; rfl
  next => rw [← Option.some.inj h]; rfl
  next => cases h

theorem decode_of_isDot {cs : List Char} (h : isDot cs = true) : Percent.decode cs = [0x2E] :=
  decode_of_afterDot? (of_decide_eq_true h)

theorem decode_of_isDoubleDot {cs : List Char} (h : isDoubleDot cs = true) :
    Percent.decode cs = [0x2E, 0x2E] := by
  obtain ⟨rest, hrest, hdot⟩ := (Option.any_eq_true ..).1 h
  rw [decode_of_afterDot? hrest, decode_of_isDot hdot]

end Url

end DeployWizard
