import DeployWizard.Proofs.FormEdits

set_option autoImplicit false

namespace DeployWizard

namespace NodeList

/-- A list after the pool changed: without the addresses that left the pool, or, if none is left,
the first address of the new pool. -/
def following (current before after : List String) : List String :=
  match current.filter fun v => !(v ∈ before && v ∉ after) with
  | [] => after.head?.toList
  | kept => kept

def Released (before after removed : List String) : Prop :=
  ∀ v, v ∉ after → (v ∈ removed ↔ v ∈ before)

theorem filter_released {before after removed : List String} (h : Released before after removed)
    (current : List String) :
    (current.filter fun v => v ∈ after || v ∉ removed) =
      current.filter fun v => !(v ∈ before && v ∉ after) := by
  apply List.filter_congr
  intro v _
  by_cases hv : v ∈ after
  · simp [hv]
  · simp [hv, h v hv]

theorem values_reconcile {before after removed : List String} (h : Released before after removed)
    (current : List String) :
    (reconcile current after removed).values = following current before after := by
  have hkept := filter_released h current
  cases after with
  | nil =>
    simp only [List.not_mem_nil, decide_false, Bool.false_or] at hkept
    simp only [reconcile, following, hkept]
    split
    next hnil => exact hnil
    next => rfl
  | cons first rest =>
    simp only [reconcile, following, hkept]
    cases current with
    | nil => rfl
    | cons v vs =>
      simp only [List.isEmpty_cons, Bool.false_eq_true, if_false]
      split
      next hnil =>
        rw [List.isEmpty_iff.1 hnil]
        rfl
      next hne =>
        split
        next hnil => exact absurd (List.isEmpty_iff.2 hnil) hne
        next => rfl

theorem length_following_le {current : List String} (h : current.length ≤ 1)
    (before after : List String) : (following current before after).length ≤ 1 := by
  unfold following
  split
  next => cases after.head? <;> simp
  next => exact (List.length_filter_le _ _).trans h

theorem not_left_of_mem_following {current before after : List String} {v : String}
    (hv : v ∈ following current before after) : ¬(v ∈ before ∧ v ∉ after) := by
  unfold following at hv
  split at hv
  next =>
    rintro ⟨-, hout⟩
    exact hout (List.mem_of_mem_head? (by simpa using hv))
  next =>
    rintro ⟨hin, hout⟩
    simpa [hin, hout] using (List.mem_filter.1 hv).2

theorem typed_sublist_following (current before after : List String) :
    (current.filter (· ∉ before)).Sublist (following current before after) := by
  have hkept : (current.filter (· ∉ before)).Sublist
      (current.filter fun v => !(v ∈ before && v ∉ after)) := by
    apply List.monotone_filter_right
    intro v hv
    simp at hv
    simp [hv]
  unfold following
  split
  next hnil =>
    rw [hnil, List.sublist_nil] at hkept
    rw [hkept]
    exact List.nil_sublist _
  next => exact hkept

theorem issue_reconcile {current pool removed : List String} {issue : Issue}
    (h : issue ∈ (reconcile current pool removed).issues) : ∃ a, issue = .invalidAddress a := by
  unfold reconcile at h
  split at h
  next => simp at h
  next first _ =>
    split at h
    next => simp at h
    next =>
      simp only at h
      split at h
      next =>
        split at h
        · simp at h
        · exact ⟨first, List.mem_singleton.1 h⟩
      next => simp at h

end NodeList

namespace Topology
variable {t : Topology}

theorem mem_allServers {s : String} : s ∈ t.allServers ↔ ∃ z ∈ t.zones, s ∈ z.servers := by
  simp [allServers]

theorem released_drop (ht : t.Identified) {z : Zone} (hz : z ∈ t.zones) :
    NodeList.Released t.allServers (t.drop z.id).allServers z.servers := by
  intro v hv
  constructor
  · intro hmem
    exact mem_allServers.2 ⟨z, hz, hmem⟩
  · intro hmem
    obtain ⟨y, hy, hyv⟩ := mem_allServers.1 hmem
    by_cases hid : y.id = z.id
    · exact ht.eq_of_id hy hz hid ▸ hyv
    · exact absurd (mem_allServers.2 ⟨y, mem_drop.2 ⟨hy, hid⟩, hyv⟩) hv

theorem released_assigned (ht : t.Identified) {z : Zone} (hz : z ∈ t.zones) (stored : List String) :
    NodeList.Released t.allServers (t.update z.id (assigned stored)).allServers
      (z.servers.filter (· ∉ stored)) := by
  intro v hv
  constructor
  · intro hmem
    exact mem_allServers.2 ⟨z, hz, (List.mem_filter.1 hmem).1⟩
  · intro hmem
    obtain ⟨y, hy, hyv⟩ := mem_allServers.1 hmem
    by_cases hid : y.id = z.id
    · obtain rfl := ht.eq_of_id hy hz hid
      have hafter : assigned stored y ∈ (t.update y.id (assigned stored)).zones :=
        mem_update.2 (Or.inr ⟨y, hy, rfl, rfl⟩)
      have hstored : v ∉ stored := fun hin => hv (mem_allServers.2 ⟨_, hafter, hin⟩)
      simp [hyv, hstored]
    · exact absurd (mem_allServers.2 ⟨y, mem_update.2 (Or.inl ⟨hy, hid⟩), hyv⟩) hv

end Topology

namespace NodeForm

def pool (f : NodeForm) : List String := f.topology.allServers

/-- What an edit of the assigned servers makes of the node lists, and what it does not report. -/
structure Follows (f g : NodeForm) (reports : List Diagnostic) : Prop where
  proxy : g.proxyServers = NodeList.following f.proxyServers f.pool g.pool
  console : g.consoleServers = NodeList.following f.consoleServers f.pool g.pool
  single : f.consoleServers.length ≤ 1 ∧ g.consoleServers.length ≤ 1
  quiet : ∀ d ∈ reports, d.issue ≠ .multipleSelection
  typedProxy : (f.proxyServers.filter (· ∉ f.pool)).Sublist g.proxyServers
  typedConsole : (f.consoleServers.filter (· ∉ f.pool)).Sublist g.consoleServers
  gone : ∀ v ∈ g.proxyServers ++ g.consoleServers, ¬(v ∈ f.pool ∧ v ∉ g.pool)

theorem follow_follows {f : NodeForm} {t : Topology} {removed : List String}
    {reports : List Diagnostic} (hsingle : f.consoleServers.length ≤ 1)
    (hreleased : NodeList.Released f.pool t.allServers removed)
    (hreports : ∀ d ∈ reports, d.issue ≠ .multipleSelection) :
    Follows f ({ f with topology := t }.follow removed).2
      (reports ++ ({ f with topology := t }.follow removed).1) := by
  have hproxy := NodeList.values_reconcile hreleased f.proxyServers
  have hconsole := NodeList.values_reconcile hreleased f.consoleServers
  have hlength := NodeList.length_following_le hsingle f.pool t.allServers
  have hcollapse := NodeList.collapse_of_length_le hlength
  simp only [follow, hproxy, hconsole, hcollapse, List.append_nil]
  refine ⟨rfl, rfl, ⟨hsingle, hlength⟩, ?_, NodeList.typed_sublist_following _ _ _,
    NodeList.typed_sublist_following _ _ _, ?_⟩
  · intro d hd
    simp only [List.mem_append, List.mem_map] at hd
    obtain hd | ⟨issue, hissue, rfl⟩ | ⟨issue, hissue, rfl⟩ := hd
    · exact hreports d hd
    · obtain ⟨a, rfl⟩ := NodeList.issue_reconcile hissue
      simp
    · obtain ⟨a, rfl⟩ := NodeList.issue_reconcile hissue
      simp
  · intro v hv
    obtain hv | hv := List.mem_append.1 hv
    · exact NodeList.not_left_of_mem_following hv
    · exact NodeList.not_left_of_mem_following hv

theorem setServers_follows {f g : NodeForm} (hf : f.WellFormed) {id : ZoneId}
    {entries : List String} {reports : List Diagnostic}
    (h : f.setServers id entries = (.ok reports, g)) : Follows f g reports := by
  have eff := Topology.apply_effect (t := f.topology) (e := .setServers id entries) rfl
  unfold setServers at h
  split at h
  next => cases h
  next edit t hedit =>
    rw [hedit] at eff
    simp only [Prod.mk.injEq, Except.ok.injEq] at h
    obtain ⟨rfl, rfl⟩ := h
    cases eff with
    | assigned z _ hz =>
      have hmem := (Topology.mem_of_zone? hz).1
      refine follow_follows hf.console (Topology.released_assigned hf.identified hmem _) ?_
      intro d hd
      obtain ⟨issue, hissue, rfl⟩ := List.mem_map.1 hd
      obtain ⟨a, rfl | rfl⟩ := Topology.accept_issue hissue <;> simp

theorem afterRemoval_follows {f g : NodeForm} (hf : f.WellFormed) {e : Topology.Edit}
    {r : Except Issue Zone} {t : Topology} (eff : Topology.Effect f.topology e (r.map .removed) t)
    {reports : List Diagnostic} (h : f.afterRemoval (r, t) = (.ok reports, g)) :
    Follows f g reports := by
  cases r with
  | error issue => cases h
  | ok z =>
    simp only [afterRemoval, Prod.mk.injEq, Except.ok.injEq] at h
    obtain ⟨rfl, rfl⟩ := h
    cases eff with
    | removed _ _ hz _ _ =>
      have hmem := (Topology.mem_of_zone? hz).1
      exact follow_follows hf.console (Topology.released_drop hf.identified hmem)
        fun _ hd => absurd hd List.not_mem_nil

/-- In every reachable form, an edit of the assigned servers takes from the node lists exactly what
left the pool. -/
theorem lists_follow_pool {d : Deployment} {s : Selection} {firstId : Nat} {f g : NodeForm}
    (hf : Reachable d s firstId f) {id : ZoneId} {entries : List String} {reports : List Diagnostic}
    (h : f.setServers id entries = (.ok reports, g) ∨ f.remove id = (.ok reports, g) ∨
      f.removeConfirmed id = (.ok reports, g)) :
    Follows f g reports := by
  obtain h | h | h := h
  · exact setServers_follows hf.wellFormed h
  · exact afterRemoval_follows hf.wellFormed (Topology.apply_effect (e := .remove id) rfl) h
  · exact afterRemoval_follows hf.wellFormed
      (Topology.apply_effect (e := .removeConfirmed id) rfl) h

theorem lists_follow_pool_of_shared_address :
    let d : Deployment :=
      { components :=
          { database := { zones := [⟨"zone1", ["10.0.0.1"], none⟩,
              ⟨"zone2", ["10.0.0.1", "10.0.0.2"], some "10.0.0.2"⟩] }
            proxy := some { servers := ["10.0.0.2", "10.9.9.9", "10.0.0.1"] }
            console := some { servers := ["10.0.0.2"] } } }
    let f := ofDeployment d {} 0
    let g : NodeForm :=
      { f with
        topology := ⟨[⟨.minted 0, "zone1", ["10.0.0.1"], none⟩,
          ⟨.minted 1, "zone2", ["10.0.0.3"], some "10.0.0.3"⟩], 3, 2⟩
        proxyServers := ["10.9.9.9", "10.0.0.1"]
        consoleServers := ["10.0.0.1"] }
    Reachable d {} 0 f ∧ f.setServers (.minted 1) ["10.0.0.3"] = (.ok [], g) ∧ Follows f g [] := by
  intro d f g
  have h : f.setServers (.minted 1) ["10.0.0.3"] = (.ok [], g) := by decide +kernel
  exact ⟨.load, h, lists_follow_pool .load (Or.inl h)⟩

end NodeForm

end DeployWizard
