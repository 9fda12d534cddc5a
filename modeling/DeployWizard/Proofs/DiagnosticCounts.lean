import Mathlib.Data.List.Count
import DeployWizard.Proofs.Consistency

set_option autoImplicit false

namespace DeployWizard.Topology

theorem mem_serverIssues_seen {a : String} (ha : isAddress a = true) (seen servers : List String) :
    a ∈ (serverIssues seen servers).2 ↔ a ∈ seen ∨ a ∈ servers := by
  fun_induction serverIssues seen servers with
  | case1 => simp
  | case2 seen s ss hinvalid issues seen' hrec ih =>
    have hne : a ≠ s := by
      rintro rfl
      simp [ha] at hinvalid
    simpa [hrec, hne] using ih
  | case3 seen s ss _ hseen issues seen' hrec ih =>
    rw [hrec] at ih
    rw [ih, List.mem_cons]
    constructor
    · rintro (h | h)
      · exact Or.inl h
      · exact Or.inr (Or.inr h)
    · rintro (h | rfl | h)
      · exact Or.inl h
      · exact Or.inl hseen
      · exact Or.inr h
  | case4 seen s ss _ _ ih => rw [ih, List.mem_cons, List.mem_cons, or_assoc, or_left_comm]

def repeats (seen servers : List String) (a : String) : Nat :=
  if a ∈ seen then servers.count a else servers.count a - 1

theorem count_serverIssues {a : String} (ha : isAddress a = true) (seen servers : List String) :
    (serverIssues seen servers).1.count (.duplicateAddress a) = repeats seen servers a := by
  fun_induction serverIssues seen servers with
  | case1 => simp [repeats]
  | case2 seen s ss hinvalid issues seen' hrec ih =>
    have hne : s ≠ a := by
      rintro rfl
      simp [ha] at hinvalid
    rw [hrec] at ih
    rw [List.count_cons_of_ne (by simp), ih, repeats, repeats, List.count_cons_of_ne hne]
  | case3 seen s ss _ hseen issues seen' hrec ih =>
    rw [hrec] at ih
    by_cases hsame : s = a
    · subst hsame
      rw [List.count_cons_self, ih, repeats, repeats, if_pos hseen, if_pos hseen,
        List.count_cons_self]
    · rw [List.count_cons_of_ne (by simpa using hsame), ih, repeats, repeats,
        List.count_cons_of_ne hsame]
  | case4 seen s ss _ hnew ih =>
    rw [ih, repeats, repeats]
    by_cases hsame : s = a
    · subst hsame
      rw [if_pos List.mem_cons_self, if_neg hnew, List.count_cons_self, Nat.add_sub_cancel]
    · rw [List.count_cons_of_ne hsame]
      simp only [List.mem_cons, Ne.symm hsame, false_or]

theorem repeats_congr {seen seen' : List String} {a : String} (h : a ∈ seen ↔ a ∈ seen')
    (servers : List String) : repeats seen servers a = repeats seen' servers a := by
  simp only [repeats, h]

theorem repeats_append (seen first rest : List String) (a : String) :
    repeats seen (first ++ rest) a = repeats seen first a + repeats (seen ++ first) rest a := by
  simp only [repeats, List.count_append, List.mem_append]
  by_cases hseen : a ∈ seen
  · simp [hseen]
  · by_cases hfirst : a ∈ first
    · have hpos : 0 < first.count a := List.count_pos_iff.2 hfirst
      simp only [hseen, hfirst, if_false, false_or, if_true]
      omega
    · have hzero : first.count a = 0 := List.count_eq_zero.2 hfirst
      simp [hseen, hfirst, hzero]

theorem nameIssue?_ne_duplicateAddress (zones : List Zone) (z : Zone) (a : String) :
    nameIssue? zones z ≠ some (.duplicateAddress a) := by
  unfold nameIssue?
  split_ifs <;> simp

theorem coordinatorIssue?_ne_duplicateAddress (z : Zone) (a : String) :
    coordinatorIssue? z ≠ some (.duplicateAddress a) := by
  unfold coordinatorIssue?
  split
  · split_ifs <;> simp
  · split_ifs <;> simp

/-- The number of diagnostics that have an issue. -/
def reports (ds : List Diagnostic) (issue : Issue) : Nat :=
  (ds.map (·.issue)).count issue

theorem reports_append (ds es : List Diagnostic) (issue : Issue) :
    reports (ds ++ es) issue = reports ds issue + reports es issue := by
  rw [reports, List.map_append, List.count_append]
  rfl

theorem reports_at (field : Field) (issues : List Issue) (issue : Issue) :
    reports (issues.map (⟨field, ·⟩)) issue = issues.count issue := by
  rw [reports, List.map_map]
  exact congrArg _ (List.map_id _)

theorem reports_diagnose {a : String} (ha : isAddress a = true) (zones : List Zone)
    (seen : List String) (zs : List Zone) :
    reports (diagnose zones seen zs) (.duplicateAddress a) =
      repeats seen (zs.flatMap (·.servers)) a := by
  induction zs generalizing seen with
  | nil => simp [diagnose, reports, repeats]
  | cons z zs ih =>
    have hname : (nameIssue? zones z).toList.count (.duplicateAddress a) = 0 :=
      List.count_eq_zero.2 fun h =>
        nameIssue?_ne_duplicateAddress zones z a (Option.mem_toList.1 h)
    have hcoordinator : (coordinatorIssue? z).toList.count (.duplicateAddress a) = 0 :=
      List.count_eq_zero.2 fun h =>
        coordinatorIssue?_ne_duplicateAddress z a (Option.mem_toList.1 h)
    have hmissing : reports (if z.servers.isEmpty then [⟨.zoneServers z.id, .required⟩] else [])
        (.duplicateAddress a) = 0 := by
      split <;> simp [reports]
    have hseen : a ∈ (serverIssues seen z.servers).2 ↔ a ∈ seen ++ z.servers := by
      rw [mem_serverIssues_seen ha, List.mem_append]
    simp only [diagnose, reports_append, reports_at, hname, hmissing, hcoordinator,
      count_serverIssues ha, ih, Nat.zero_add, Nat.add_zero]
    rw [repeats_congr hseen, List.flatMap_cons, repeats_append]

theorem zoneName_mem_diagnose_iff (zones : List Zone) (seen : List String) (zs : List Zone)
    (id : ZoneId) (issue : Issue) :
    ⟨.zoneName id, issue⟩ ∈ diagnose zones seen zs ↔
      ∃ z ∈ zs, z.id = id ∧ nameIssue? zones z = some issue := by
  induction zs generalizing seen with
  | nil => simp [diagnose]
  | cons z zs ih =>
    have hmissing : (⟨.zoneName id, issue⟩ : Diagnostic) ∉
        (if z.servers.isEmpty then [⟨.zoneServers z.id, .required⟩] else []) := by
      split <;> simp
    simp only [diagnose, List.mem_append, ih, hmissing, List.mem_cons, exists_eq_or_imp]
    simp [eq_comm, and_comm]

theorem nameIssue?_eq_duplicateName_iff {zones : List Zone} {z : Zone}
    (hname : isZoneName z.name = true) :
    nameIssue? zones z = some (.duplicateName z.name) ↔
      ∃ other ∈ zones, other.id ≠ z.id ∧ other.name = z.name := by
  have hsome : z.name ≠ "" := by
    intro hempty
    simp [hempty, isZoneName_empty] at hname
  simp [nameIssue?, hsome, hname]

/-- What the diagnostics say of a zone list: nothing exactly when it is consistent, of each address
as often as it stands again, and of each valid name whether another zone has it too. -/
theorem validate_exact {t : Topology} (h : t.ids.Nodup) :
    (t.validate = [] ↔ Consistent t) ∧
      (∀ a, isAddress a = true →
        reports t.validate (.duplicateAddress a) = t.allServers.count a - 1) ∧
      ∀ z ∈ t.zones, isZoneName z.name = true →
        (⟨.zoneName z.id, .duplicateName z.name⟩ ∈ t.validate ↔
          ∃ other ∈ t.zones, other ≠ z ∧ other.name = z.name) := by
  refine ⟨validate_eq_nil_iff h, fun a ha => ?_, fun z hz hname => ?_⟩
  · unfold validate
    split
    next hempty => simp [reports, allServers, List.isEmpty_iff.1 hempty]
    next =>
      rw [reports_diagnose ha, repeats, if_neg List.not_mem_nil]
      rfl
  · have hsome : t.zones.isEmpty = false := by
      rw [List.isEmpty_eq_false_iff]
      exact List.ne_nil_of_mem hz
    have hsame {y : Zone} (hy : y ∈ t.zones) : y.id = z.id ↔ y = z :=
      ⟨List.inj_on_of_nodup_map h hy hz, congrArg Zone.id⟩
    rw [validate, hsome, if_neg Bool.false_ne_true, zoneName_mem_diagnose_iff]
    constructor
    · rintro ⟨y, hy, hid, hissue⟩
      obtain rfl := (hsame hy).1 hid
      obtain ⟨other, hother, hne, hshared⟩ := (nameIssue?_eq_duplicateName_iff hname).1 hissue
      exact ⟨other, hother, fun heq => hne (congrArg Zone.id heq), hshared⟩
    · rintro ⟨other, hother, hne, hshared⟩
      refine ⟨z, hz, rfl, (nameIssue?_eq_duplicateName_iff hname).2 ⟨other, hother, ?_, hshared⟩⟩
      exact fun hid => hne ((hsame hother).1 hid)

/-- Two zones of one name; they hold one address three times and an entry that is none. -/
def crowdedPair : Topology where
  zones := [⟨.minted 0, "zone1", ["10.0.0.1", "nowhere", "10.0.0.1"], some "10.0.0.1"⟩,
    ⟨.minted 1, "zone1", ["10.0.0.2", "10.0.0.1"], none⟩]
  nameIndex := 3
  nextId := 2

theorem crowdedPair_diagnosed :
    crowdedPair.ids.Nodup ∧ isAddress "10.0.0.1" = true ∧ isZoneName "zone1" = true ∧
      crowdedPair.validate ≠ [] ∧
      reports crowdedPair.validate (.duplicateAddress "10.0.0.1") = 2 ∧
      ⟨.zoneName (.minted 1), .duplicateName "zone1"⟩ ∈ crowdedPair.validate := by
  have hids : crowdedPair.ids.Nodup := by decide
  have haddress : isAddress "10.0.0.1" = true := by decide +kernel
  have hname : isZoneName "zone1" = true := by decide +kernel
  obtain ⟨hclean, hcount, hnames⟩ := validate_exact hids
  refine ⟨hids, haddress, hname, fun hnil => ?_, hcount _ haddress, ?_⟩
  · have hservers := (hclean.1 hnil).servers
    revert hservers
    decide
  · exact (hnames ⟨.minted 1, "zone1", ["10.0.0.2", "10.0.0.1"], none⟩ (by decide) hname).2
      ⟨⟨.minted 0, "zone1", ["10.0.0.1", "nowhere", "10.0.0.1"], some "10.0.0.1"⟩, by decide,
        by decide, rfl⟩

end DeployWizard.Topology
