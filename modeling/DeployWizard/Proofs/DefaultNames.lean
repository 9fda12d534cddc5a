import Mathlib.Data.List.Nodup
import Mathlib.Data.List.Perm.Subperm
import Mathlib.Data.Nat.Find
import Mathlib.Order.Bounds.Defs
import DeployWizard.Proofs.AddressOwnership
import DeployWizard.Proofs.Consistency

set_option autoImplicit false

namespace DeployWizard.Topology

theorem defaultName_toList (m : Nat) :
    (defaultName m).toList = 'z' :: 'o' :: 'n' :: 'e' :: Text.decimal m := by
  simp [defaultName, Text.decimal]

theorem defaultName_injective : Function.Injective defaultName := by
  intro i j h
  apply Text.decimal_inj
  simpa [defaultName_toList] using congrArg String.toList h

theorem isZoneName_defaultName {m : Nat} (h : m ≤ lastNameIndex) :
    isZoneName (defaultName m) = true := by
  have hlength : (Text.decimal m).length ≤ 10 :=
    (Nat.length_toDigits_le_iff (by decide) (by decide)).2 (lt_of_le_of_lt h (by decide))
  have halphanumeric : ∀ c ∈ Text.decimal m, Text.isAsciiAlphanumeric c = true := by
    intro c hc
    simp [Text.isAsciiAlphanumeric, Text.isAsciiDigit_of_mem_decimal hc]
  have hne : Text.decimal m ≠ [] := Nat.toDigits_ne_nil
  have hlast : ('o' :: 'n' :: 'e' :: Text.decimal m).getLast? =
      some ((Text.decimal m).getLast hne) := by
    simp [List.getLast?_cons, List.getLast?_eq_some_getLast hne]
  have hall : ('o' :: 'n' :: 'e' :: Text.decimal m).all isNameChar = true := by
    simp only [List.all_cons, Bool.and_eq_true, List.all_eq_true]
    refine ⟨by decide, by decide, by decide, fun c hc => ?_⟩
    simp [isNameChar, halphanumeric c hc]
  unfold isZoneName
  simp only [defaultName_toList, hlast, hall, halphanumeric _ (List.getLast_mem hne),
    List.length_cons, Bool.and_true, Bool.and_eq_true, decide_eq_true_eq]
  exact ⟨by decide, by omega⟩

/-- The search for a free default name from a number on, candidate by candidate: how many it looks
at, and the number it ends with. -/
inductive Search (taken : List String) : Nat → Nat → Nat → Prop
  | found {i : Nat} (h : defaultName i ∉ taken) : Search taken i 1 i
  | next {i tries m : Nat} (h : defaultName i ∈ taken)
    (rest : Search taken (nextIndex i) tries m) : Search taken i (tries + 1) m

def freeFrom (taken : List String) (i : Nat) : Set Nat :=
  { m | i ≤ m ∧ m ≤ lastNameIndex ∧ defaultName m ∉ taken }

section Search
variable {taken : List String} {i tries m : Nat}

theorem nextIndex_of_lt (h : i < lastNameIndex) : nextIndex i = i + 1 := by
  unfold nextIndex
  omega

theorem nextIndex_last : nextIndex lastNameIndex = lastNameIndex := rfl

theorem Search.isLeast (h : Search taken i tries m) (hi : i ≤ lastNameIndex) :
    IsLeast (freeFrom taken i) m ∧ tries = m - i + 1 := by
  induction h with
  | found h => exact ⟨⟨⟨le_rfl, hi, h⟩, fun _ hm => hm.1⟩, by omega⟩
  | @next i tries m htaken rest ih =>
    obtain hlt | rfl := Nat.lt_or_eq_of_le hi
    · rw [nextIndex_of_lt hlt] at ih
      obtain ⟨⟨⟨hle, hlast, hfree⟩, hleast⟩, htries⟩ := ih hlt
      refine ⟨⟨⟨by omega, hlast, hfree⟩, ?_⟩, by omega⟩
      rintro k ⟨hk, hklast, hkfree⟩
      have hne : i ≠ k := by
        rintro rfl
        exact hkfree htaken
      exact hleast ⟨by omega, hklast, hkfree⟩
    · -- At the last number the search stays where it is, and the name there is taken.
      rw [nextIndex_last] at ih
      obtain ⟨⟨⟨hle, hlast, hfree⟩, -⟩, -⟩ := ih hi
      obtain rfl := Nat.le_antisymm hlast hle
      exact absurd htaken hfree

theorem taken_of_isLeast (h : IsLeast (freeFrom taken i) m) :
    ∀ j, i ≤ j → j < m → defaultName j ∈ taken := by
  obtain ⟨⟨_, hlast, _⟩, hleast⟩ := h
  intro j hij hjm
  by_contra hfree
  have hlater := hleast ⟨hij, by omega, hfree⟩
  omega

theorem search_of_taken {k : Nat} (hlast : i + k ≤ lastNameIndex)
    (htaken : ∀ j < k, defaultName (i + j) ∈ taken) (hfree : defaultName (i + k) ∉ taken) :
    Search taken i (k + 1) (i + k) := by
  induction k generalizing i with
  | zero => exact .found hfree
  | succ k ih =>
    have hshift (j : Nat) : i + (j + 1) = i + 1 + j := by omega
    rw [hshift] at hlast hfree ⊢
    refine .next (htaken 0 (by omega)) ?_
    rw [nextIndex_of_lt (by omega)]
    exact ih hlast (fun j hj => hshift j ▸ htaken (j + 1) (by omega)) hfree

theorem search_iff (hi : i ≤ lastNameIndex) :
    Search taken i tries m ↔ IsLeast (freeFrom taken i) m ∧ tries = m - i + 1 := by
  refine ⟨fun h => h.isLeast hi, ?_⟩
  rintro ⟨hleast, rfl⟩
  have htaken := taken_of_isLeast hleast
  obtain ⟨hle, hlast, hfree⟩ := hleast.1
  obtain ⟨k, rfl⟩ := Nat.exists_eq_add_of_le hle
  rw [Nat.add_sub_cancel_left]
  exact search_of_taken hlast (fun j hj => htaken (i + j) (by omega) (by omega)) hfree

theorem search_ends_iff (hi : i ≤ lastNameIndex) :
    (∃ tries m, Search taken i tries m) ↔ (freeFrom taken i).Nonempty := by
  constructor
  · rintro ⟨tries, m, h⟩
    exact ⟨m, ((search_iff hi).1 h).1.1⟩
  · intro h
    classical
    exact ⟨_, Nat.find h, (search_iff hi).2
      ⟨⟨Nat.find_spec h, fun _ hm => Nat.find_min' h hm⟩, rfl⟩⟩

theorem sub_le_length_of_taken (h : ∀ j, i ≤ j → j < m → defaultName j ∈ taken) :
    m - i ≤ taken.length := by
  have hnodup : ((List.range' i (m - i)).map defaultName).Nodup :=
    List.Nodup.map defaultName_injective (List.nodup_range' ..)
  have hsubset : (List.range' i (m - i)).map defaultName ⊆ taken := by
    intro name hname
    obtain ⟨j, hj, rfl⟩ := List.mem_map.1 hname
    obtain ⟨hij, hjm⟩ := List.mem_range'_1.1 hj
    exact h j hij (by omega)
  simpa using (hnodup.subperm hsubset).length_le

/-- The search finds what it finds among as many candidates as there are names, and one more. -/
theorem Search.tries_le (h : Search taken i tries m) (hi : i ≤ lastNameIndex) :
    tries ≤ taken.length + 1 := by
  obtain ⟨hleast, rfl⟩ := h.isLeast hi
  exact Nat.succ_le_succ (sub_le_length_of_taken (taken_of_isLeast hleast))

theorem freeFrom_nonempty (h : i + taken.length ≤ lastNameIndex) :
    (freeFrom taken i).Nonempty := by
  by_contra hnone
  have htaken : ∀ j, i ≤ j → j < i + taken.length + 1 → defaultName j ∈ taken := by
    intro j hij hj
    by_contra hfree
    exact hnone ⟨j, hij, by omega, hfree⟩
  have hmany := sub_le_length_of_taken htaken
  omega

theorem freeName?_eq_some_iff {fuel : Nat} {r : String × Nat} :
    freeName? taken fuel i = some r ↔
      ∃ tries m, tries ≤ fuel ∧ Search taken i tries m ∧ r = (defaultName m, nextIndex m) := by
  induction fuel generalizing i with
  | zero =>
    simp only [freeName?, reduceCtorEq, false_iff]
    rintro ⟨_, _, htries, h, -⟩
    cases h <;> omega
  | succ fuel ih =>
    unfold freeName?
    split
    next htaken =>
      rw [ih]
      constructor
      · rintro ⟨tries, m, htries, h, rfl⟩
        exact ⟨tries + 1, m, by omega, .next htaken h, rfl⟩
      · rintro ⟨_, m, htries, h, rfl⟩
        cases h with
        | found hfree => exact absurd htaken hfree
        | next _ rest => exact ⟨_, m, by omega, rest, rfl⟩
    next hfree =>
      rw [Option.some.injEq]
      constructor
      · rintro rfl
        exact ⟨1, i, by omega, .found hfree, rfl⟩
      · rintro ⟨_, m, -, h, rfl⟩
        cases h with
        | found _ => rfl
        | next htaken _ => exact absurd htaken hfree

end Search

/-- A zone without servers or coordinator at the end of the list, named by a number. -/
def withDefault (t : Topology) (m : Nat) : ZoneId × Topology :=
  (.minted t.nextId,
    { zones := t.zones ++ [⟨.minted t.nextId, defaultName m, [], none⟩]
      nameIndex := nextIndex m
      nextId := t.nextId + 1 })

theorem add?_none_eq_some_iff {t : Topology} (ht : t.nameIndex ≤ lastNameIndex)
    {r : ZoneId × Topology} :
    t.add? none = some r ↔
      ∃ tries m, Search t.names t.nameIndex tries m ∧ r = t.withDefault m := by
  simp only [add?, addDefault?, Option.map_eq_some_iff, freeName?_eq_some_iff]
  constructor
  · rintro ⟨_, ⟨tries, m, -, h, rfl⟩, rfl⟩
    exact ⟨tries, m, h, rfl⟩
  · rintro ⟨tries, m, h, rfl⟩
    have htries := h.tries_le ht
    rw [names, List.length_map] at htries
    exact ⟨_, ⟨tries, m, htries, h, rfl⟩, rfl⟩

structure NamesByDefault (t : Topology) : Prop where
  added : ∀ r, t.add? none = some r ↔
    ∃ tries m, Search t.names t.nameIndex tries m ∧ r = t.withDefault m
  ends_iff : (∃ tries m, Search t.names t.nameIndex tries m) ↔
    (freeFrom t.names t.nameIndex).Nonempty
  least : ∀ tries m, Search t.names t.nameIndex tries m → IsLeast (freeFrom t.names t.nameIndex) m
  valid : ∀ tries m, Search t.names t.nameIndex tries m →
    isZoneName (defaultName m) = true ∧ defaultName m ∉ t.names
  ends_within : t.nameIndex + t.zones.length ≤ lastNameIndex →
    ∃ tries m, Search t.names t.nameIndex tries m ∧ tries ≤ t.zones.length + 1

theorem namesByDefault {t : Topology} (ht : t.nameIndex ≤ lastNameIndex) : NamesByDefault t where
  added _ := add?_none_eq_some_iff ht
  ends_iff := search_ends_iff ht
  least _ _ h := (h.isLeast ht).1
  valid _ _ h := by
    obtain ⟨-, hlast, hfree⟩ := (h.isLeast ht).1.1
    exact ⟨isZoneName_defaultName hlast, hfree⟩
  ends_within hmany := by
    have hlength : t.names.length = t.zones.length := List.length_map _
    rw [← hlength] at hmany ⊢
    obtain ⟨tries, m, h⟩ := (search_ends_iff ht).2 (freeFrom_nonempty hmany)
    exact ⟨tries, m, h, h.tries_le ht⟩

/-- What a run keeps in which no zone is given a name when it is added. -/
structure WellNamed (t : Topology) : Prop where
  distinct : t.names.Nodup
  valid : ∀ name ∈ t.names, isZoneName name = true
  index : t.nameIndex ≤ lastNameIndex

theorem names_update (t : Topology) (id : ZoneId) {f : Zone → Zone}
    (hf : ∀ z, (f z).name = z.name) : (t.update id f).names = t.names := by
  simp only [names, update, List.map_map]
  apply List.map_congr_left
  intro z _
  by_cases hid : z.id = id <;> simp [hid, hf]

namespace WellNamed
variable {t t' : Topology}

theorem fresh (firstId : Nat) : (Topology.fresh firstId).WellNamed := by
  have hnames : (Topology.fresh firstId).names = [1, 2, 3].map defaultName := rfl
  have hsmall : ∀ m ∈ [1, 2, 3], m ≤ lastNameIndex := by decide
  refine ⟨?_, ?_, show 4 ≤ lastNameIndex by decide⟩
  · rw [hnames]
    exact List.Nodup.map defaultName_injective (by decide)
  · rw [hnames]
    intro name hname
    obtain ⟨m, hm, rfl⟩ := List.mem_map.1 hname
    exact isZoneName_defaultName (hsmall m hm)

theorem of_sublist (h : t.WellNamed) (hnames : t'.names.Sublist t.names)
    (hindex : t'.nameIndex = t.nameIndex) : t'.WellNamed where
  distinct := h.distinct.sublist hnames
  valid name hname := h.valid name (hnames.subset hname)
  index := hindex ▸ h.index

theorem update (h : t.WellNamed) (id : ZoneId) {f : Zone → Zone}
    (hf : ∀ z, (f z).name = z.name) : (t.update id f).WellNamed :=
  h.of_sublist (names_update t id hf ▸ List.Sublist.refl _) rfl

theorem rename (h : t.WellNamed) (ht : t.Identified) {id : ZoneId} {name : String}
    (hname : isZoneName name = true) (hfree : ∀ z ∈ t.zones, z.id ≠ id → z.name ≠ name) :
    (t.update id fun z => { z with name }).WellNamed where
  distinct := by
    have hapart := (names_nodup_iff ht.distinct).1 h.distinct
    have hids := (ht.update id (fun z => { z with name }) fun _ => rfl).distinct
    refine (names_nodup_iff hids).2 ?_
    intro z hz other hother hne
    obtain ⟨hz, hzid⟩ | ⟨z, hz, rfl, rfl⟩ := mem_update.1 hz
    · obtain ⟨hother, -⟩ | ⟨other, -, -, rfl⟩ := mem_update.1 hother
      · exact hapart z hz other hother hne
      · exact (hfree z hz hzid).symm
    · obtain ⟨hother, hid⟩ | ⟨other, -, hid, rfl⟩ := mem_update.1 hother
      · exact hfree other hother hid
      · exact absurd hid hne
  valid := by
    intro name' hname'
    obtain ⟨z, hz, rfl⟩ := List.mem_map.1 hname'
    obtain ⟨hz, -⟩ | ⟨z, -, -, rfl⟩ := mem_update.1 hz
    · exact h.valid _ (List.mem_map_of_mem hz)
    · exact hname
  index := h.index

theorem withDefault (h : t.WellNamed) {tries m : Nat} (hm : Search t.names t.nameIndex tries m) :
    (t.withDefault m).2.WellNamed := by
  obtain ⟨hvalid, hfree⟩ := (namesByDefault h.index).valid tries m hm
  have hnames : (t.withDefault m).2.names = t.names ++ [defaultName m] := by
    simp [names, Topology.withDefault]
  refine ⟨?_, ?_, Nat.min_le_right _ _⟩
  · rw [hnames]
    exact List.nodup_append'.2 ⟨h.distinct, List.nodup_singleton _, by simpa using hfree⟩
  · rw [hnames]
    intro name hname
    obtain hname | hname := List.mem_append.1 hname
    · exact h.valid name hname
    · rwa [List.mem_singleton.1 hname]

theorem step (h : t.WellNamed) (ht : t.Identified) {e : Edit} {r : Except Issue Answer}
    (happly : t.apply e = some (r, t')) (he : ∀ name, e ≠ .add (some name)) : t'.WellNamed := by
  cases apply_effect happly with
  | added entry name index =>
    cases entry with
    | some name => exact absurd rfl (he name)
    | none =>
      obtain ⟨added, hadd, heq⟩ := Option.map_eq_some_iff.1 happly
      obtain ⟨tries, m, hm, rfl⟩ := (add?_none_eq_some_iff h.index).1 hadd
      rw [← (Prod.mk.inj heq).2]
      exact h.withDefault hm
  | removed _ z _ _ _ => exact h.of_sublist (List.filter_sublist.map _) rfl
  | renamed id name hname hfree => exact h.rename ht hname hfree
  | assigned z entries _ => exact h.update z.id fun _ => rfl
  | coordinated z entry _ _ _ => exact h.update z.id fun _ => rfl
  | strayed z entry _ _ _ => exact h.update z.id fun _ => rfl
  | cleared id => exact h.update id fun _ => rfl
  | refused _ _ _ => exact h

end WellNamed

theorem Run.wellNamed {firstId : Nat} {past : List Event} {t : Topology}
    (run : Run [] firstId past t) (h : ∀ event ∈ past, ∀ name, event.1 ≠ .add (some name)) :
    t.WellNamed := by
  induction run with
  | load => exact WellNamed.fresh firstId
  | step run happly ih =>
    have hpast := ih fun event hevent => h event (List.mem_cons_of_mem _ hevent)
    exact hpast.step run.identified happly (h _ List.mem_cons_self)

/-- A zone that is added without a name gets the least default name that is free from the counter
on, whenever there is one; so in a run of fresh zones to which none is added by name, all names are
valid and distinct. -/
theorem default_names_free :
    (∀ t : Topology, t.nameIndex ≤ lastNameIndex → NamesByDefault t) ∧
      ∀ firstId past t, Run [] firstId past t →
        (∀ event ∈ past, ∀ name, event.1 ≠ .add (some name)) →
          t.names.Nodup ∧ ∀ z ∈ t.zones, isZoneName z.name = true := by
  refine ⟨fun t ht => namesByDefault ht, fun firstId past t run h => ?_⟩
  have hnamed := run.wellNamed h
  exact ⟨hnamed.distinct, fun z hz => hnamed.valid _ (List.mem_map_of_mem hz)⟩

theorem default_names_free_after_rename :
    let t : Topology := ⟨[⟨.minted 0, "zone4294967294", [], none⟩], 4294967294, 1⟩
    let past : List Event :=
      [(.add none, .ok (.added (.minted 3))), (.rename (.minted 1) "zone4", .ok .done)]
    let t' : Topology :=
      ⟨[⟨.minted 0, "zone1", [], none⟩, ⟨.minted 1, "zone4", [], none⟩,
        ⟨.minted 2, "zone3", [], none⟩, ⟨.minted 3, "zone5", [], none⟩], 6, 4⟩
    t.nameIndex ≤ lastNameIndex ∧ NamesByDefault t ∧
      t.add? none = some (t.withDefault 4294967295) ∧
      Run [] 0 past t' ∧ (∀ event ∈ past, ∀ name, event.1 ≠ .add (some name)) ∧
      t'.names.Nodup ∧ ∀ z ∈ t'.zones, isZoneName z.name = true := by
  intro t past t'
  have hindex : t.nameIndex ≤ lastNameIndex := by decide
  have hlast : t.add? none = some (t.withDefault 4294967295) := by decide +kernel
  have hrenamed : (ofPlans [] 0).apply (.rename (.minted 1) "zone4") =
      some (.ok .done, ⟨[⟨.minted 0, "zone1", [], none⟩, ⟨.minted 1, "zone4", [], none⟩,
        ⟨.minted 2, "zone3", [], none⟩], 4, 3⟩) := by
    decide +kernel
  have hadded : Topology.apply ⟨[⟨.minted 0, "zone1", [], none⟩, ⟨.minted 1, "zone4", [], none⟩,
      ⟨.minted 2, "zone3", [], none⟩], 4, 3⟩ (.add none) =
        some (.ok (.added (.minted 3)), t') := by
    decide +kernel
  have run : Run [] 0 past t' := (Run.load.step hrenamed).step hadded
  have hunnamed : ∀ event ∈ past, ∀ name, event.1 ≠ .add (some name) := by simp [past]
  exact ⟨hindex, default_names_free.1 t hindex, hlast, run, hunnamed,
    default_names_free.2 0 past t' run hunnamed⟩

end DeployWizard.Topology
