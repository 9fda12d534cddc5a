import Mathlib.Data.List.Nodup
import DeployWizard.Topology.Validation
import DeployWizard.Proofs.ZoneEdits

set_option autoImplicit false

namespace DeployWizard.Topology

theorem isZoneName_empty : isZoneName "" = false := by decide +kernel

theorem nameIssue?_eq_none_iff {zones : List Zone} {z : Zone} :
    nameIssue? zones z = none ↔
      isZoneName z.name = true ∧ ∀ other ∈ zones, other.id ≠ z.id → other.name ≠ z.name := by
  unfold nameIssue?
  split
  next hempty => simp [hempty, isZoneName_empty]
  next =>
    split
    next hname =>
      have hname : isZoneName z.name = false := by simpa using hname
      simp [hname]
    next hname =>
      have hname : isZoneName z.name = true := by simpa using hname
      split
      next hshared =>
        simp only [List.any_eq_true, Bool.and_eq_true, decide_eq_true_eq] at hshared
        obtain ⟨other, hother, hid, hsame⟩ := hshared
        simp only [reduceCtorEq, false_iff, not_and]
        exact fun _ h => h other hother hid hsame
      next hfree => simpa [hname] using hfree

theorem serverIssues_eq_nil_iff (seen servers : List String) :
    (serverIssues seen servers).1 = [] ↔
      (∀ s ∈ servers, isAddress s = true) ∧ servers.Nodup ∧ ∀ s ∈ servers, s ∉ seen := by
  fun_induction serverIssues seen servers with
  | case1 => simp
  | case2 seen s ss hinvalid issues seen' hrec ih =>
    have hinvalid : isAddress s = false := by simpa using hinvalid
    simp [hinvalid]
  | case3 seen s ss _ hseen issues seen' hrec ih => simp [hseen]
  | case4 seen s ss hvalid hnew ih =>
    have hvalid : isAddress s = true := by simpa using hvalid
    rw [ih]
    simp only [List.mem_cons, forall_eq_or_imp, List.nodup_cons, hvalid, true_and, hnew,
      not_false_eq_true, not_or]
    constructor
    · rintro ⟨haddress, hnodup, hfree⟩
      exact ⟨haddress, ⟨fun hs => (hfree s hs).1 rfl, hnodup⟩, fun x hx => (hfree x hx).2⟩
    · rintro ⟨haddress, ⟨hs, hnodup⟩, hfree⟩
      exact ⟨haddress, hnodup, fun x hx => ⟨fun h => hs (h ▸ hx), hfree x hx⟩⟩

theorem mem_seen_serverIssues {seen servers : List String}
    (h : (serverIssues seen servers).1 = []) (x : String) :
    x ∈ (serverIssues seen servers).2 ↔ x ∈ seen ∨ x ∈ servers := by
  fun_induction serverIssues seen servers with
  | case1 => simp
  | case2 seen s ss _ issues seen' hrec ih => simp at h
  | case3 seen s ss _ _ issues seen' hrec ih => simp at h
  | case4 seen s ss _ _ ih =>
    rw [ih h, List.mem_cons, List.mem_cons, or_assoc, or_left_comm]

theorem coordinatorIssue?_eq_none_iff {z : Zone} (hservers : z.servers ≠ [])
    (haddresses : ∀ s ∈ z.servers, isAddress s = true) :
    coordinatorIssue? z = none ↔ ∃ c ∈ z.servers, z.coordinator = some c := by
  unfold coordinatorIssue?
  split
  next hnone => simp [hservers, hnone]
  next c hc =>
    simp only [hc, Option.some.injEq, exists_eq_right']
    split
    next hinvalid =>
      simp only [reduceCtorEq, false_iff]
      intro hmem
      simp [haddresses c hmem] at hinvalid
    next =>
      split
      next hmem => simp [hmem]
      next hout => simp [hout]

/-- What the diagnostics ask of one zone. -/
structure Accepted (zones : List Zone) (z : Zone) : Prop where
  deployable : Deployable z
  name : ∀ other ∈ zones, other.id ≠ z.id → other.name ≠ z.name

theorem diagnose_eq_nil_iff (zones : List Zone) (seen : List String) (zs : List Zone) :
    diagnose zones seen zs = [] ↔
      (∀ z ∈ zs, Accepted zones z) ∧ (zs.flatMap (·.servers)).Nodup ∧
        ∀ s ∈ zs.flatMap (·.servers), s ∉ seen := by
  induction zs generalizing seen with
  | nil => simp [diagnose]
  | cons z zs ih =>
    simp only [diagnose, List.append_eq_nil_iff, List.map_eq_nil_iff, Option.toList_eq_nil_iff, ih,
      nameIssue?_eq_none_iff]
    constructor
    · rintro ⟨⟨⟨⟨⟨hname, hfree⟩, hsome⟩, hissues⟩, hcoordinator⟩, hzones, hnodup, hlater⟩
      have hservers : z.servers ≠ [] := by
        intro hnil
        simp [hnil] at hsome
      obtain ⟨haddresses, hown, hnew⟩ := (serverIssues_eq_nil_iff _ _).1 hissues
      -- The later zones are checked against what was seen before and the servers of this one.
      have hseen := mem_seen_serverIssues hissues
      refine ⟨?_, ?_, ?_⟩
      · intro y hy
        obtain rfl | hy := List.mem_cons.1 hy
        · exact ⟨⟨hname, hservers, haddresses,
            (coordinatorIssue?_eq_none_iff hservers haddresses).1 hcoordinator⟩, hfree⟩
        · exact hzones y hy
      · rw [List.flatMap_cons]
        refine List.nodup_append'.2 ⟨hown, hnodup, ?_⟩
        intro s hs hmem
        exact hlater s hmem ((hseen s).2 (Or.inr hs))
      · intro s hs
        obtain hs | hs := List.mem_append.1 hs
        · exact hnew s hs
        · exact fun h => hlater s hs ((hseen s).2 (Or.inl h))
    · rintro ⟨hzones, hnodup, hnew⟩
      obtain ⟨⟨hname, hservers, haddresses, hcoordinator⟩, hfree⟩ := hzones z List.mem_cons_self
      rw [List.flatMap_cons] at hnodup hnew
      obtain ⟨hown, hrest, hdisjoint⟩ := List.nodup_append'.1 hnodup
      have hissues : (serverIssues seen z.servers).1 = [] :=
        (serverIssues_eq_nil_iff _ _).2
          ⟨haddresses, hown, fun s hs => hnew s (List.mem_append_left _ hs)⟩
      refine ⟨⟨⟨⟨⟨hname, hfree⟩, by simp [hservers]⟩, hissues⟩,
        (coordinatorIssue?_eq_none_iff hservers haddresses).2 hcoordinator⟩,
        fun y hy => hzones y (List.mem_cons_of_mem _ hy), hrest, ?_⟩
      intro s hs hmem
      obtain hmem | hmem := (mem_seen_serverIssues hissues s).1 hmem
      · exact hnew s (List.mem_append_right _ hs) hmem
      · exact hdisjoint hmem hs

theorem names_nodup_iff {t : Topology} (h : t.ids.Nodup) :
    t.names.Nodup ↔ ∀ z ∈ t.zones, ∀ other ∈ t.zones, other.id ≠ z.id → other.name ≠ z.name := by
  constructor
  · intro hnames z hz other hother hid hsame
    have heq : other = z := List.inj_on_of_nodup_map hnames hother hz hsame
    exact hid (congrArg Zone.id heq)
  · intro hfree
    have hids : t.zones.Pairwise fun y z => y.id ≠ z.id := List.pairwise_map.1 h
    refine List.pairwise_map.2 (hids.imp_of_mem fun {y z} hy hz hid => ?_)
    exact hfree z hz y hy hid

theorem validate_eq_nil_iff {t : Topology} (h : t.ids.Nodup) : t.validate = [] ↔ Consistent t := by
  unfold validate
  split
  next hempty =>
    simp only [List.cons_ne_nil, false_iff]
    exact fun hc => hc.nonempty (List.isEmpty_iff.1 hempty)
  next hsome =>
    rw [diagnose_eq_nil_iff]
    constructor
    · rintro ⟨hzones, hnodup, -⟩
      refine ⟨by simpa using hsome, fun z hz => (hzones z hz).deployable, ?_, hnodup⟩
      exact (names_nodup_iff h).2 fun z hz => (hzones z hz).name
    · intro hc
      refine ⟨fun z hz => ⟨hc.zones z hz, (names_nodup_iff h).1 hc.names z hz⟩, hc.servers, ?_⟩
      simp

end DeployWizard.Topology
