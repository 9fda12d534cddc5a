import DeployWizard.Proofs.PoolFollowing

set_option autoImplicit false

namespace DeployWizard

namespace NodeList
variable {current pool removed : List String} {v : String}

/-- What a list holds anew is the first address of the pool, and then it holds nothing else. -/
theorem reconcile_new (hv : v ∈ (reconcile current pool removed).values) (hnew : v ∉ current) :
    (reconcile current pool removed).values = [v] ∧ pool.head? = some v := by
  unfold reconcile at hv ⊢
  split at hv
  next => exact absurd (List.mem_filter.1 hv).1 hnew
  next first rest =>
    split at hv
    next hempty =>
      obtain rfl := List.mem_singleton.1 hv
      simp [hempty]
    next hsome =>
      simp only at hv
      split at hv
      next hkept =>
        obtain rfl := List.mem_singleton.1 hv
        simp only [hsome, hkept]
        exact ⟨rfl, rfl⟩
      next => exact absurd (List.mem_filter.1 hv).1 hnew

theorem invalidAddress_mem_reconcile_iff :
    .invalidAddress v ∈ (reconcile current pool removed).issues ↔
      current ≠ [] ∧ v ∈ (reconcile current pool removed).values ∧ v ∉ current ∧
        isAddress v = false := by
  unfold reconcile
  split
  next =>
    refine iff_of_false List.not_mem_nil ?_
    rintro ⟨-, hv, hnew, -⟩
    exact hnew (List.mem_filter.1 hv).1
  next first rest =>
    split
    next hempty => simp [List.isEmpty_iff.1 hempty]
    next hsome =>
      have hne : current ≠ [] := fun hnil => hsome (List.isEmpty_iff.2 hnil)
      dsimp only
      split
      next hkept =>
        -- An entry that is in the pool would have been kept.
        have hfirst : first ∉ current := by
          intro hmem
          simpa using List.filter_eq_nil_iff.1 (List.isEmpty_iff.1 hkept) first hmem
        cases haddress : isAddress first with
        | true =>
          simp only [if_true, List.not_mem_nil, List.mem_singleton, false_iff]
          rintro ⟨-, rfl, -, hinvalid⟩
          exact Bool.false_ne_true (hinvalid.symm.trans haddress)
        | false =>
          simp only [Bool.false_eq_true, if_false, List.mem_singleton, Issue.invalidAddress.injEq]
          constructor
          · rintro rfl
            exact ⟨hne, rfl, hfirst, haddress⟩
          · rintro ⟨-, hv, -⟩
            exact hv
      next =>
        refine iff_of_false List.not_mem_nil ?_
        rintro ⟨-, hv, hnew, -⟩
        exact hnew (List.mem_filter.1 hv).1

theorem length_reconcile_le (h : current.length ≤ 1) (pool removed : List String) :
    (reconcile current pool removed).values.length ≤ 1 := by
  unfold reconcile
  split
  next => exact (List.length_filter_le _ _).trans h
  next =>
    split
    next => exact le_rfl
    next =>
      dsimp only
      split
      next => exact le_rfl
      next => exact (List.length_filter_le _ _).trans h

end NodeList

inductive NodeChoice where
  | proxy
  | console
  deriving DecidableEq

namespace NodeChoice

def field : NodeChoice → Field
  | proxy => .proxyServers
  | console => .consoleServers

def servers : NodeChoice → NodeForm → List String
  | proxy, f => f.proxyServers
  | console, f => f.consoleServers

end NodeChoice

namespace NodeForm
variable {f g : NodeForm}

theorem servers_follow (hsingle : f.consoleServers.length ≤ 1) (removed : List String)
    (k : NodeChoice) :
    k.servers (f.follow removed).2 =
      (NodeList.reconcile (k.servers f) f.topology.allServers removed).values := by
  cases k with
  | proxy => rfl
  | console =>
    simp only [follow, NodeChoice.servers,
      NodeList.collapse_of_length_le (NodeList.length_reconcile_le hsingle _ _)]

theorem invalidAddress_mem_follow_iff (hsingle : f.consoleServers.length ≤ 1)
    (removed : List String) (k : NodeChoice) (v : String) :
    ⟨k.field, .invalidAddress v⟩ ∈ (f.follow removed).1 ↔
      .invalidAddress v ∈
        (NodeList.reconcile (k.servers f) f.topology.allServers removed).issues := by
  have hcollapse := NodeList.collapse_of_length_le
    (NodeList.length_reconcile_le hsingle f.topology.allServers removed)
  cases k <;> simp [follow, NodeChoice.field, NodeChoice.servers, hcollapse]

inductive Derived (f : NodeForm) : NodeForm → List Diagnostic → Prop
  | follow (t : Topology) (removed : List String) (dropped : List Diagnostic)
    (hdropped : ∀ d ∈ dropped, ∃ id, d.field = .zoneServers id) :
    Derived f ({ f with topology := t }.follow removed).2
      (dropped ++ ({ f with topology := t }.follow removed).1)

theorem derived_setServers {id : ZoneId} {entries : List String} {reports : List Diagnostic}
    (h : f.setServers id entries = (.ok reports, g)) : Derived f g reports := by
  unfold setServers at h
  split at h
  next => cases h
  next edit t hedit =>
    simp only [Prod.mk.injEq, Except.ok.injEq] at h
    obtain ⟨rfl, rfl⟩ := h
    refine .follow t edit.removed _ fun d hd => ?_
    obtain ⟨issue, -, rfl⟩ := List.mem_map.1 hd
    exact ⟨id, rfl⟩

theorem derived_afterRemoval {r : Except Issue Zone × Topology} {reports : List Diagnostic}
    (h : f.afterRemoval r = (.ok reports, g)) : Derived f g reports := by
  obtain ⟨issue | z, t⟩ := r
  · cases h
  · simp only [afterRemoval, Prod.mk.injEq, Except.ok.injEq] at h
    obtain ⟨rfl, rfl⟩ := h
    exact .follow t z.servers [] fun d hd => absurd hd List.not_mem_nil

theorem Derived.reported_iff (hsingle : f.consoleServers.length ≤ 1) {reports : List Diagnostic}
    (h : Derived f g reports) (k : NodeChoice) (v : String) :
    ⟨k.field, .invalidAddress v⟩ ∈ reports ↔
      k.servers f ≠ [] ∧ v ∈ k.servers g ∧ v ∉ k.servers f ∧ isAddress v = false := by
  cases h with
  | follow t removed dropped hdropped =>
    have hzones : ⟨k.field, .invalidAddress v⟩ ∉ dropped := by
      intro hmem
      obtain ⟨id, hfield⟩ := hdropped _ hmem
      cases k <;> cases hfield
    have hsame : k.servers { f with topology := t } = k.servers f := by cases k <;> rfl
    rw [List.mem_append, or_iff_right hzones,
      invalidAddress_mem_follow_iff (f := { f with topology := t }) hsingle,
      NodeList.invalidAddress_mem_reconcile_iff,
      servers_follow (f := { f with topology := t }) hsingle, hsame]

theorem Derived.new_from_pool (hsingle : f.consoleServers.length ≤ 1) {reports : List Diagnostic}
    (h : Derived f g reports) {k : NodeChoice} {v : String} (hv : v ∈ k.servers g)
    (hnew : v ∉ k.servers f) : k.servers g = [v] ∧ g.pool.head? = some v := by
  cases h with
  | follow t removed dropped hdropped =>
    have hsame : k.servers { f with topology := t } = k.servers f := by cases k <;> rfl
    rw [servers_follow (f := { f with topology := t }) hsingle, hsame] at hv ⊢
    exact NodeList.reconcile_new hv hnew

/-- What an edit of the assigned servers puts into a node list is the first address of the pool, and
it is then the only one. If it is malformed, it is reported iff the list was not empty before, and
nothing else is reported as a malformed entry of the list. -/
theorem malformed_default_reported_iff {d : Deployment} {chosen : Selection} {firstId : Nat}
    (hf : Reachable d chosen firstId f) {id : ZoneId} {entries : List String}
    {reports : List Diagnostic}
    (h : f.setServers id entries = (.ok reports, g) ∨ f.remove id = (.ok reports, g) ∨
      f.removeConfirmed id = (.ok reports, g)) (k : NodeChoice) :
    (∀ v ∈ k.servers g, v ∉ k.servers f → k.servers g = [v] ∧ g.pool.head? = some v) ∧
      ∀ v, ⟨k.field, .invalidAddress v⟩ ∈ reports ↔
        k.servers f ≠ [] ∧ v ∈ k.servers g ∧ v ∉ k.servers f ∧ isAddress v = false := by
  have hderived : Derived f g reports := by
    obtain h | h | h := h
    · exact derived_setServers h
    · exact derived_afterRemoval h
    · exact derived_afterRemoval h
  have hsingle := hf.wellFormed.console
  exact ⟨fun v hv hnew => hderived.new_from_pool hsingle hv hnew,
    hderived.reported_iff hsingle k⟩

def zonesWithMalformed : List ZonePlan :=
  [⟨"zone1", ["nowhere"], none⟩, ⟨"zone2", ["10.0.0.2"], some "10.0.0.2"⟩]

theorem malformed_default_reported_on_replacement :
    let d : Deployment :=
      { components :=
          { database := { zones := zonesWithMalformed }
            proxy := some { servers := ["10.0.0.2"] } } }
    let f := ofDeployment d {} 0
    let g : NodeForm :=
      { f with
        topology := ⟨[⟨.minted 0, "zone1", ["nowhere"], none⟩], 3, 2⟩
        proxyServers := ["nowhere"] }
    let reports : List Diagnostic := [⟨.proxyServers, .invalidAddress "nowhere"⟩]
    Reachable d {} 0 f ∧ f.removeConfirmed (.minted 1) = (.ok reports, g) ∧
      (∀ v ∈ g.proxyServers, v ∉ f.proxyServers →
        g.proxyServers = [v] ∧ g.pool.head? = some v) ∧
      ∀ v, ⟨.proxyServers, .invalidAddress v⟩ ∈ reports ↔
        f.proxyServers ≠ [] ∧ v ∈ g.proxyServers ∧ v ∉ f.proxyServers ∧ isAddress v = false := by
  intro d f g reports
  have h : f.removeConfirmed (.minted 1) = (.ok reports, g) := by decide +kernel
  have hedit : f.setServers (.minted 1) [] = (.ok reports, g) ∨
      f.remove (.minted 1) = (.ok reports, g) ∨ f.removeConfirmed (.minted 1) = (.ok reports, g) :=
    Or.inr (Or.inr h)
  exact ⟨.load, h, malformed_default_reported_iff .load hedit .proxy⟩

theorem malformed_default_fills_silently :
    let d : Deployment := { components := { database := { zones := zonesWithMalformed } } }
    let f := ((ofDeployment d {} 0).setProxyServers []).2.setConsoleServers []
    let edit := f.2.setServers (.minted 1) ["10.0.0.3"]
    Reachable d {} 0 f.2 ∧ edit.1 = .ok [] ∧ isAddress "nowhere" = false ∧
      f.2.proxyServers = [] ∧ edit.2.proxyServers = ["nowhere"] ∧
      f.2.consoleServers = [] ∧ edit.2.consoleServers = ["nowhere"] := by
  intro d f edit
  have hf : Reachable d {} 0 f.2 :=
    .step (e := .setConsoleServers []) (.step (e := .setProxyServers []) .load rfl) rfl
  exact ⟨hf, by decide +kernel, by decide +kernel, by decide +kernel, by decide +kernel,
    by decide +kernel, by decide +kernel⟩

end NodeForm

end DeployWizard
