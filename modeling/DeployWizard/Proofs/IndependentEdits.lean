import Mathlib.Data.List.Basic
import DeployWizard.Proofs.ServerEntries

set_option autoImplicit false

namespace DeployWizard.Topology
variable {t : Topology}

theorem accept_congr {held held' entries : List String}
    (h : ∀ s ∈ entries.map Text.trim, s ∈ held ↔ s ∈ held') :
    accept held entries = accept held' entries := by
  have hadmits : ∀ e ∈ (entries.map Text.trim).zipIdx,
      admits held (entries.map Text.trim) e = admits held' (entries.map Text.trim) e := by
    intro e he
    simp only [admits, h e.1 (List.fst_mem_of_mem_zipIdx he)]
  have hrefused : ∀ e ∈ (entries.map Text.trim).zipIdx,
      (!admits held (entries.map Text.trim) e) = !admits held' (entries.map Text.trim) e :=
    fun e he => congrArg not (hadmits e he)
  rw [accept_eq, accept_eq, admitted, admitted, objections, objections, List.filter_congr hadmits,
    List.filter_congr hrefused]

theorem entry_of_mem_accept {held entries : List String} {s : String}
    (h : s ∈ (accept held entries).1) : s ∈ entries.map Text.trim := by
  rw [accept_eq] at h
  obtain ⟨e, he, rfl⟩ := List.mem_map.1 h
  exact List.fst_mem_of_mem_zipIdx (List.mem_filter.1 he).1

theorem update_comm {a b : ZoneId} {f g : Zone → Zone} (hf : ∀ z, (f z).id = z.id)
    (hg : ∀ z, (g z).id = z.id) (hne : a ≠ b) :
    (t.update a f).update b g = (t.update b g).update a f := by
  simp only [update, List.map_map, mk.injEq, and_true]
  apply List.map_congr_left
  intro z _
  by_cases ha : z.id = a
  · simp [ha, hf, hne]
  · by_cases hb : z.id = b
    · simp [hb, hg, hne.symm]
    · simp [ha, hb]

theorem Identified.setServers_eq (ht : t.Identified) {z : Zone} (hz : z ∈ t.zones)
    (entries : List String) :
    t.setServers z.id entries =
      (.ok ⟨z.servers.filter (· ∉ (accept (t.heldElsewhere z.id) entries).1),
          (accept (t.heldElsewhere z.id) entries).2⟩,
        t.update z.id (assigned (accept (t.heldElsewhere z.id) entries).1)) := by
  obtain ⟨before, after, hzones, -⟩ := ht.place hz
  simp only [setServers, (ht.placed hzones).zone?_eq]
  rfl

theorem Identified.setServers_assigns (ht : t.Identified) {z : Zone} (hz : z ∈ t.zones)
    (entries : List String) :
    ∃ stored edit, (∀ s ∈ stored, s ∈ entries.map Text.trim) ∧
      t.setServers z.id entries = (.ok edit, t.update z.id (assigned stored)) :=
  ⟨_, _, fun _ => entry_of_mem_accept, ht.setServers_eq hz entries⟩

/-- Entries that another zone holds neither before nor after its edit are sorted as without it. -/
theorem accept_update (ht : t.Identified) {y : Zone} (hy : y ∈ t.zones) (id : ZoneId)
    {stored entries : List String} (hold : ∀ s ∈ entries.map Text.trim, s ∉ y.servers)
    (hnew : ∀ s ∈ entries.map Text.trim, s ∉ stored) :
    accept ((t.update y.id (assigned stored)).heldElsewhere id) entries =
      accept (t.heldElsewhere id) entries := by
  apply accept_congr
  intro s hs
  simp only [mem_heldElsewhere, mem_update]
  constructor
  · rintro ⟨x, ⟨hx, -⟩ | ⟨old, -, -, rfl⟩, hid, hmem⟩
    · exact ⟨x, hx, hid, hmem⟩
    · exact absurd hmem (hnew s hs)
  · rintro ⟨x, hx, hid, hmem⟩
    refine ⟨x, Or.inl ⟨hx, fun hsame => ?_⟩, hid, hmem⟩
    rw [ht.eq_of_id hx hy hsame] at hmem
    exact hold s hs hmem

theorem setServers_update (ht : t.Identified) {y z : Zone} (hy : y ∈ t.zones) (hz : z ∈ t.zones)
    (hne : y.id ≠ z.id) {stored entries : List String}
    (hold : ∀ s ∈ entries.map Text.trim, s ∉ y.servers)
    (hnew : ∀ s ∈ entries.map Text.trim, s ∉ stored) :
    (t.update y.id (assigned stored)).setServers z.id entries =
      ((t.setServers z.id entries).1,
        (t.setServers z.id entries).2.update y.id (assigned stored)) := by
  have ht' : (t.update y.id (assigned stored)).Identified := ht.update y.id _ fun _ => rfl
  have hz' : z ∈ (t.update y.id (assigned stored)).zones := mem_update.2 (Or.inl ⟨hz, hne.symm⟩)
  rw [ht'.setServers_eq hz', ht.setServers_eq hz, accept_update ht hy z.id hold hnew]
  exact congrArg (Prod.mk _) (update_comm (fun _ => rfl) (fun _ => rfl) hne)

/-- In every run, servers can be entered for two zones in either order, with the same results, if
the entries for each zone are apart from the servers of the other zone and from the entries for
it. -/
theorem setServers_commute {plans : List ZonePlan} {firstId : Nat} {past : List Event}
    (run : Run plans firstId past t) {y z : Zone} (hy : y ∈ t.zones) (hz : z ∈ t.zones)
    (hne : y.id ≠ z.id) {xs ys : List String}
    (hxs : ∀ s ∈ xs.map Text.trim, s ∉ z.servers) (hys : ∀ s ∈ ys.map Text.trim, s ∉ y.servers)
    (hapart : ∀ s ∈ xs.map Text.trim, s ∉ ys.map Text.trim) :
    ∃ first second u v w,
      t.setServers y.id xs = (.ok first, u) ∧ u.setServers z.id ys = (.ok second, w) ∧
      t.setServers z.id ys = (.ok second, v) ∧ v.setServers y.id xs = (.ok first, w) := by
  have ht := run.identified
  obtain ⟨storedX, first, hstoredX, hx⟩ := ht.setServers_assigns hy xs
  obtain ⟨storedY, second, hstoredY, hy'⟩ := ht.setServers_assigns hz ys
  have hsecond := setServers_update ht hy hz hne hys
    fun s hs hmem => hapart s (hstoredX s hmem) hs
  have hfirst := setServers_update ht hz hy hne.symm hxs
    fun s hs hmem => hapart s hs (hstoredY s hmem)
  have hswap : (t.update y.id (assigned storedX)).update z.id (assigned storedY) =
      (t.update z.id (assigned storedY)).update y.id (assigned storedX) :=
    update_comm (fun _ => rfl) (fun _ => rfl) hne
  rw [hy'] at hsecond
  rw [hx] at hfirst
  exact ⟨first, second, _, _, _, hx, hsecond, hy', hfirst.trans (congrArg (Prod.mk _) hswap)⟩

/-- Both lists repeat an entry and hold one that is no address; one takes back what its zone had,
the other would like the address of a third zone. -/
theorem setServers_commute_beside_third :
    let plans : List ZonePlan :=
      [⟨"zone1", ["10.0.0.1", "nowhere"], some "10.0.0.1"⟩, ⟨"zone2", ["10.0.0.2"], none⟩,
        ⟨"zone3", ["10.0.0.3"], none⟩]
    let y : Zone := ⟨.minted 0, "zone1", ["10.0.0.1", "nowhere"], some "10.0.0.1"⟩
    let z : Zone := ⟨.minted 1, "zone2", ["10.0.0.2"], none⟩
    let xs := ["nowhere", " 10.0.0.4", "10.0.0.1", "10.0.0.4 "]
    let ys := ["10.0.0.3", "10.0.0.5", "somewhere", "10.0.0.5"]
    (y ∈ (ofPlans plans 0).zones ∧ z ∈ (ofPlans plans 0).zones ∧ y.id ≠ z.id) ∧
      (∀ s ∈ xs.map Text.trim, s ∉ z.servers) ∧ (∀ s ∈ ys.map Text.trim, s ∉ y.servers) ∧
      (∀ s ∈ xs.map Text.trim, s ∉ ys.map Text.trim) ∧
      ∃ first second u v w,
        (ofPlans plans 0).setServers y.id xs = (.ok first, u) ∧
        u.setServers z.id ys = (.ok second, w) ∧
        (ofPlans plans 0).setServers z.id ys = (.ok second, v) ∧
        v.setServers y.id xs = (.ok first, w) ∧
        w.allServers = ["10.0.0.4", "10.0.0.1", "10.0.0.5", "10.0.0.3"] := by
  intro plans y z xs ys
  have hy : y ∈ (ofPlans plans 0).zones := by decide +kernel
  have hz : z ∈ (ofPlans plans 0).zones := by decide +kernel
  have hne : y.id ≠ z.id := by decide
  have hxs : ∀ s ∈ xs.map Text.trim, s ∉ z.servers := by decide +kernel
  have hys : ∀ s ∈ ys.map Text.trim, s ∉ y.servers := by decide +kernel
  have hapart : ∀ s ∈ xs.map Text.trim, s ∉ ys.map Text.trim := by decide +kernel
  have hservers : (((ofPlans plans 0).setServers y.id xs).2.setServers z.id ys).2.allServers =
      ["10.0.0.4", "10.0.0.1", "10.0.0.5", "10.0.0.3"] := by decide +kernel
  obtain ⟨first, second, u, v, w, hu, hw, hv, hw'⟩ :=
    setServers_commute .load hy hz hne hxs hys hapart
  rw [hu, hw] at hservers
  exact ⟨⟨hy, hz, hne⟩, hxs, hys, hapart, first, second, u, v, w, hu, hw, hv, hw', hservers⟩

end DeployWizard.Topology
