import Mathlib.Data.List.Nodup
import DeployWizard.Topology.Edit
import DeployWizard.Proofs.Trimming

set_option autoImplicit false

/-!
The edits of a zone list as data, and what each of them can do to it. Every fact that an edit keeps
is derived from `apply_effect`, and no proof after it opens an edit again.
-/
namespace DeployWizard.Topology

def ids (t : Topology) : List ZoneId := t.zones.map (·.id)

theorem mem_of_zone? {t : Topology} {id : ZoneId} {z : Zone} (h : t.zone? id = some z) :
    z ∈ t.zones ∧ z.id = id :=
  ⟨List.mem_of_find?_eq_some h, by simpa using List.find?_some h⟩

theorem mem_update {t : Topology} {id : ZoneId} {f : Zone → Zone} {z : Zone} :
    z ∈ (t.update id f).zones ↔
      (z ∈ t.zones ∧ z.id ≠ id) ∨ ∃ old ∈ t.zones, old.id = id ∧ z = f old := by
  simp only [update, List.mem_map]
  constructor
  · rintro ⟨old, hold, rfl⟩
    by_cases hid : old.id = id
    · exact Or.inr ⟨old, hold, hid, if_pos hid⟩
    · rw [if_neg hid]
      exact Or.inl ⟨hold, hid⟩
  · rintro (⟨hz, hid⟩ | ⟨old, hold, hid, rfl⟩)
    · exact ⟨z, hz, if_neg hid⟩
    · exact ⟨old, hold, if_pos hid⟩

theorem ids_update (t : Topology) (id : ZoneId) (f : Zone → Zone) (hf : ∀ z, (f z).id = z.id) :
    (t.update id f).ids = t.ids := by
  simp only [ids, update, List.map_map]
  apply List.map_congr_left
  intro z _
  by_cases hid : z.id = id <;> simp [hid, hf]

theorem mem_drop {t : Topology} {id : ZoneId} {z : Zone} :
    z ∈ (t.drop id).zones ↔ z ∈ t.zones ∧ z.id ≠ id := by
  simp [drop]

theorem ids_drop_sublist (t : Topology) (id : ZoneId) : (t.drop id).ids.Sublist t.ids :=
  List.filter_sublist.map _

theorem accept_spec (taken entries : List String) :
    (∀ s ∈ (accept taken entries).1, Text.trim s = s ∧ isAddress s = true ∧ s ∉ taken) ∧
      (accept taken entries).1.Nodup := by
  fun_induction accept taken entries with
  | case1 => simp
  | case2 taken entry entries address _ stored issues hrec ih => simpa [hrec] using ih
  | case3 taken entry entries address _ _ stored issues hrec ih => simpa [hrec] using ih
  | case4 taken entry entries address hvalid hfree stored issues hrec ih =>
    rw [hrec] at ih
    obtain ⟨hstored, hnodup⟩ := ih
    constructor
    · intro s hs
      obtain rfl | hs := List.mem_cons.1 hs
      · exact ⟨Text.trim_trim entry, by simpa using hvalid, hfree⟩
      · obtain ⟨htrim, haddress, hnew⟩ := hstored s hs
        exact ⟨htrim, haddress, fun h => hnew (List.mem_cons_of_mem _ h)⟩
    · refine List.nodup_cons.2 ⟨fun h => ?_, hnodup⟩
      exact (hstored _ h).2.2 List.mem_cons_self

theorem accept_issue {taken entries : List String} {issue : Issue}
    (h : issue ∈ (accept taken entries).2) :
    ∃ a, issue = .invalidAddress a ∨ issue = .duplicateAddress a := by
  fun_induction accept taken entries with
  | case1 => simp at h
  | case2 taken entry entries address _ stored issues hrec ih =>
    obtain rfl | h := List.mem_cons.1 h
    · exact ⟨address, Or.inl rfl⟩
    · exact ih (by simpa [hrec] using h)
  | case3 taken entry entries address _ _ stored issues hrec ih =>
    obtain rfl | h := List.mem_cons.1 h
    · exact ⟨address, Or.inr rfl⟩
    · exact ih (by simpa [hrec] using h)
  | case4 taken entry entries address _ _ stored issues hrec ih =>
    exact ih (by simpa [hrec] using h)

theorem mem_of_coordinatorFor {servers : List String} {old : Option String} {c : String}
    (h : coordinatorFor servers old = some c) : c ∈ servers := by
  unfold coordinatorFor at h
  split at h
  next kept hkept =>
    cases h
    simpa using (Option.filter_eq_some_iff.1 hkept).2
  next =>
    split at h
    · cases h
      exact List.mem_singleton_self _
    · cases h

def assigned (stored : List String) (z : Zone) : Zone :=
  { z with servers := stored, coordinator := coordinatorFor stored z.coordinator }

inductive Edit where
  | add (name : Option String)
  | remove (id : ZoneId)
  | removeConfirmed (id : ZoneId)
  | rename (id : ZoneId) (name : String)
  | setServers (id : ZoneId) (entries : List String)
  | setCoordinator (id : ZoneId) (entry : String)
  | clearCoordinator (id : ZoneId)
  deriving DecidableEq

inductive Answer where
  | added (id : ZoneId)
  | removed (zone : Zone)
  | assigned (edit : ServersEdit)
  | done
  deriving DecidableEq

/-- The edit's result and the topology after it; none if a default name is never found. -/
def apply (t : Topology) : Edit → Option (Except Issue Answer × Topology)
  | .add name => (t.add? name).map fun (id, t) => (.ok (.added id), t)
  | .remove id => some ((t.remove id).1.map .removed, (t.remove id).2)
  | .removeConfirmed id => some ((t.removeConfirmed id).1.map .removed, (t.removeConfirmed id).2)
  | .rename id name => some ((t.rename id name).1.map fun _ => .done, (t.rename id name).2)
  | .setServers id entries =>
    some ((t.setServers id entries).1.map .assigned, (t.setServers id entries).2)
  | .setCoordinator id entry =>
    some ((t.setCoordinator id entry).1.map fun _ => .done, (t.setCoordinator id entry).2)
  | .clearCoordinator id =>
    some ((t.clearCoordinator id).1.map fun _ => .done, (t.clearCoordinator id).2)

/-- Everything an edit can do. An edit that is refused changes nothing, except that a coordinator
from outside the zone is stored. -/
inductive Effect (t : Topology) : Edit → Except Issue Answer → Topology → Prop
  | added (entry : Option String) (name : String) (index : Nat) :
    Effect t (.add entry) (.ok (.added (.minted t.nextId)))
      ({ t with nameIndex := index }.addNamed name).2
  | removed (e : Edit) (z : Zone) (hz : t.zone? z.id = some z) (hmany : t.zones.length ≠ 1)
    (he : e = .remove z.id ∨ e = .removeConfirmed z.id) :
    Effect t e (.ok (.removed z)) (t.drop z.id)
  | renamed (id : ZoneId) (name : String) (hname : isZoneName name = true)
    (hfree : ∀ z ∈ t.zones, z.id ≠ id → z.name ≠ name) :
    Effect t (.rename id name) (.ok .done) (t.update id fun z => { z with name })
  | assigned (z : Zone) (entries : List String) (hz : t.zone? z.id = some z) :
    Effect t (.setServers z.id entries)
      (.ok (.assigned ⟨z.servers.filter (· ∉ (accept (t.heldElsewhere z.id) entries).1),
        (accept (t.heldElsewhere z.id) entries).2⟩))
      (t.update z.id (Topology.assigned (accept (t.heldElsewhere z.id) entries).1))
  | coordinated (z : Zone) (entry : String) (hz : t.zone? z.id = some z)
    (haddress : isAddress (Text.trim entry) = true) (hserver : Text.trim entry ∈ z.servers) :
    Effect t (.setCoordinator z.id entry) (.ok .done)
      (t.update z.id fun z => { z with coordinator := some (Text.trim entry) })
  | strayed (z : Zone) (entry : String) (hz : t.zone? z.id = some z)
    (haddress : isAddress (Text.trim entry) = true) (hserver : Text.trim entry ∉ z.servers) :
    Effect t (.setCoordinator z.id entry) (.error (.notInZone (Text.trim entry)))
      (t.update z.id fun z => { z with coordinator := some (Text.trim entry) })
  | cleared (id : ZoneId) :
    Effect t (.clearCoordinator id) (.ok .done)
      (t.update id fun z => { z with coordinator := none })
  | refused (e : Edit) (issue : Issue) (h : ∀ a, issue ≠ .notInZone a) : Effect t e (.error issue) t

theorem apply_effect {t t' : Topology} {e : Edit} {r : Except Issue Answer}
    (h : t.apply e = some (r, t')) : Effect t e r t' := by
  cases e with
  | add name =>
    cases name with
    | some name =>
      cases h
      exact .added (some name) name t.nameIndex
    | none =>
      simp only [apply, add?, addDefault?, Option.map_map, Option.map_eq_some_iff] at h
      obtain ⟨⟨name, index⟩, -, h⟩ := h
      cases h
      exact .added none name index
  | remove id =>
    simp only [apply, remove, Option.some.injEq] at h
    split at h
    next => cases h; exact .refused _ _ (by simp)
    next z hz =>
      obtain ⟨-, rfl⟩ := mem_of_zone? hz
      split at h
      next => cases h; exact .refused _ _ (by simp)
      next hmany =>
        split at h
        next => cases h; exact .removed _ z hz hmany (Or.inl rfl)
        next => cases h; exact .refused _ _ (by simp)
  | removeConfirmed id =>
    simp only [apply, removeConfirmed, Option.some.injEq] at h
    split at h
    next => cases h; exact .refused _ _ (by simp)
    next z hz =>
      obtain ⟨-, rfl⟩ := mem_of_zone? hz
      split at h
      next => cases h; exact .refused _ _ (by simp)
      next hmany => cases h; exact .removed _ z hz hmany (Or.inr rfl)
  | rename id name =>
    simp only [apply, rename, Option.some.injEq] at h
    split at h
    next => cases h; exact .refused _ _ (by simp)
    next z hz =>
      split at h
      next => cases h; exact .refused _ _ (by simp)
      next hname =>
        split at h
        next => cases h; exact .refused _ _ (by simp)
        next hfree =>
          cases h
          refine .renamed id name (by simpa using hname) ?_
          simpa using hfree
  | setServers id entries =>
    simp only [apply, setServers, Option.some.injEq] at h
    split at h
    next => cases h; exact .refused _ _ (by simp)
    next z hz =>
      obtain ⟨-, rfl⟩ := mem_of_zone? hz
      cases h
      exact .assigned z entries hz
  | setCoordinator id entry =>
    simp only [apply, setCoordinator, Option.some.injEq] at h
    split at h
    next => cases h; exact .refused _ _ (by simp)
    next z hz =>
      obtain ⟨-, rfl⟩ := mem_of_zone? hz
      split at h
      next => cases h; exact .refused _ _ (by simp)
      next haddress =>
        have haddress : isAddress (Text.trim entry) = true := by simpa using haddress
        by_cases hserver : Text.trim entry ∈ z.servers
        · simp only [hserver, if_true] at h
          cases h
          exact .coordinated z entry hz haddress hserver
        · simp only [hserver, if_false] at h
          cases h
          exact .strayed z entry hz haddress hserver
  | clearCoordinator id =>
    simp only [apply, clearCoordinator, Option.some.injEq] at h
    split at h
    next => cases h; exact .refused _ _ (by simp)
    next => cases h; exact .cleared id

/-- What every zone list keeps: there is a zone, and every identity was given out by the session and
to one zone only. -/
structure Identified (t : Topology) : Prop where
  nonempty : t.zones ≠ []
  distinct : t.ids.Nodup
  minted : ∀ z ∈ t.zones, ∃ n < t.nextId, z.id = .minted n

namespace Identified
variable {t t' : Topology}

theorem eq_of_id (h : t.Identified) {y z : Zone} (hy : y ∈ t.zones) (hz : z ∈ t.zones)
    (hid : y.id = z.id) : y = z :=
  List.inj_on_of_nodup_map h.distinct hy hz hid

theorem fresh_id (h : t.Identified) : .minted t.nextId ∉ t.ids := by
  intro hmem
  obtain ⟨z, hz, hid⟩ := List.mem_map.1 hmem
  obtain ⟨n, hlt, hn⟩ := h.minted z hz
  rw [hn, ZoneId.minted.injEq] at hid
  omega

theorem update (h : t.Identified) (id : ZoneId) (f : Zone → Zone) (hf : ∀ z, (f z).id = z.id) :
    (t.update id f).Identified where
  nonempty := by simpa [Topology.update] using h.nonempty
  distinct := by rw [ids_update t id f hf]; exact h.distinct
  minted := by
    intro z hz
    obtain ⟨hz, -⟩ | ⟨old, hold, -, rfl⟩ := mem_update.1 hz
    · exact h.minted z hz
    · rw [hf]
      exact h.minted old hold

theorem drop (h : t.Identified) (id : ZoneId) (hmany : t.zones.length ≠ 1) :
    (t.drop id).Identified where
  nonempty := by
    obtain ⟨zones, _, _⟩ := t
    match zones, h, hmany with
    | [], h, _ => exact absurd rfl h.nonempty
    | [_], _, hmany => exact absurd rfl hmany
    | y :: z :: zs, h, _ =>
      have hne : y.id ≠ z.id := by
        have := h.distinct
        simp only [ids, List.map_cons, List.nodup_cons, List.mem_cons, not_or] at this
        exact this.1.1
      by_cases hy : y.id = id
      · have hz : z.id ≠ id := fun hz => hne (hy.trans hz.symm)
        exact List.ne_nil_of_mem (mem_drop.2 ⟨by simp, hz⟩)
      · exact List.ne_nil_of_mem (mem_drop.2 ⟨by simp, hy⟩)
  distinct := h.distinct.sublist (ids_drop_sublist t id)
  minted := fun z hz => h.minted z (mem_drop.1 hz).1

theorem addNamed (h : t.Identified) (index : Nat) (name : String) :
    ({ t with nameIndex := index }.addNamed name).2.Identified where
  nonempty := by simp [Topology.addNamed]
  distinct := by
    simp only [ids, Topology.addNamed, List.map_append, List.map_cons, List.map_nil]
    exact List.nodup_append.2 ⟨h.distinct, List.nodup_singleton _, by
      rintro id hid _ hnew rfl
      rw [List.mem_singleton.1 hnew] at hid
      exact h.fresh_id hid⟩
  minted := by
    intro z hz
    simp only [Topology.addNamed, List.mem_append, List.mem_singleton] at hz ⊢
    obtain hz | rfl := hz
    · obtain ⟨n, hlt, hn⟩ := h.minted z hz
      exact ⟨n, by omega, hn⟩
    · exact ⟨t.nextId, by omega, rfl⟩

theorem of_effect {e : Edit} {r : Except Issue Answer} (h : t.Identified) (eff : Effect t e r t') :
    t'.Identified := by
  cases eff with
  | added entry name index => exact h.addNamed index name
  | removed _ z _ hmany _ => exact h.drop z.id hmany
  | renamed id name _ _ => exact h.update id _ fun _ => rfl
  | assigned z entries _ => exact h.update z.id _ fun _ => rfl
  | coordinated z entry _ _ _ => exact h.update z.id _ fun _ => rfl
  | strayed z entry _ _ _ => exact h.update z.id _ fun _ => rfl
  | cleared id => exact h.update id _ fun _ => rfl
  | refused _ _ _ => exact h

end Identified

theorem blank_of_mem_fresh {firstId : Nat} {z : Zone} (hz : z ∈ (fresh firstId).zones) :
    z.servers = [] ∧ z.coordinator = none := by
  simp only [fresh, List.mem_map] at hz
  obtain ⟨k, -, rfl⟩ := hz
  exact ⟨rfl, rfl⟩

theorem minted_of_mem_loadZones {firstId : Nat} {plans : List ZonePlan} {z : Zone}
    (h : z ∈ loadZones firstId plans) :
    ∃ n, firstId ≤ n ∧ n < firstId + plans.length ∧ z.id = .minted n := by
  induction plans generalizing firstId with
  | nil => simp [loadZones] at h
  | cons p ps ih =>
    obtain rfl | h := List.mem_cons.1 h
    · exact ⟨firstId, le_rfl, by simp, rfl⟩
    · obtain ⟨n, hle, hlt, hn⟩ := ih h
      exact ⟨n, by omega, by simp only [List.length_cons]; omega, hn⟩

theorem ids_loadZones_nodup (firstId : Nat) (plans : List ZonePlan) :
    ((loadZones firstId plans).map (·.id)).Nodup := by
  induction plans generalizing firstId with
  | nil => simp [loadZones]
  | cons p ps ih =>
    refine List.nodup_cons.2 ⟨fun h => ?_, ih (firstId + 1)⟩
    obtain ⟨z, hz, hid⟩ := List.mem_map.1 h
    obtain ⟨n, hle, -, hn⟩ := minted_of_mem_loadZones hz
    rw [hn, ZoneId.minted.injEq] at hid
    omega

theorem identified_ofPlans (plans : List ZonePlan) (firstId : Nat) :
    (ofPlans plans firstId).Identified := by
  unfold ofPlans
  split
  next =>
    refine ⟨by simp [fresh], ?_, ?_⟩
    · simp [ids, fresh, List.range, List.range.loop]
    · simp only [fresh, List.mem_map, List.mem_range]
      rintro z ⟨k, hk, rfl⟩
      exact ⟨firstId + k, by omega, rfl⟩
  next hne =>
    refine ⟨?_, ids_loadZones_nodup firstId plans, ?_⟩
    · cases plans with
      | nil => exact absurd rfl hne
      | cons p ps => simp [loadZones]
    · intro z hz
      obtain ⟨n, -, hlt, hn⟩ := minted_of_mem_loadZones hz
      exact ⟨n, hlt, hn⟩

end DeployWizard.Topology
