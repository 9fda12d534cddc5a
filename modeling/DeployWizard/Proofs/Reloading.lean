import DeployWizard.Proofs.DraftWriting
import DeployWizard.Proofs.Gate

set_option autoImplicit false

/-!
A form that is written into a draft and built from it again. Loading trims addresses, drops blank
settings and takes one console node, so the form comes back because no reachable form holds
anything that loading would change.
-/
namespace DeployWizard

theorem isAddress_empty : isAddress "" = false := by decide +kernel

theorem ne_empty_of_isAddress {s : String} (h : isAddress s = true) : s ≠ "" := by
  rintro rfl
  simp [isAddress_empty] at h

/-- A zone that loading leaves as it is. -/
structure Zone.Tidy (z : Zone) : Prop where
  trimmed : ∀ s ∈ z.servers, Text.trim s = s
  coordinator : z.coordinator ≠ some ""

namespace Topology
variable {t t' : Topology}

theorem tidy_of_mem_loadZones {firstId : Nat} {plans : List ZonePlan} {z : Zone}
    (hz : z ∈ loadZones firstId plans) : z.Tidy := by
  induction plans generalizing firstId with
  | nil => simp [loadZones] at hz
  | cons p ps ih =>
    obtain rfl | hz := List.mem_cons.1 hz
    · constructor
      · intro s hs
        obtain ⟨entry, -, rfl⟩ := List.mem_map.1 hs
        exact Text.trim_trim entry
      · intro hc
        simpa using (Option.filter_eq_some_iff.1 hc).2
    · exact ih hz

theorem tidy_ofPlans (plans : List ZonePlan) (firstId : Nat) :
    ∀ z ∈ (ofPlans plans firstId).zones, z.Tidy := by
  intro z hz
  unfold ofPlans at hz
  split at hz
  next =>
    obtain ⟨hservers, hcoordinator⟩ := blank_of_mem_fresh hz
    constructor <;> simp [hservers, hcoordinator]
  next => exact tidy_of_mem_loadZones hz

theorem tidy_update {id : ZoneId} {f : Zone → Zone} (ht : ∀ z ∈ t.zones, z.Tidy)
    (hf : ∀ z, z.Tidy → (f z).Tidy) : ∀ z ∈ (t.update id f).zones, z.Tidy := by
  intro z hz
  obtain ⟨hz, -⟩ | ⟨old, hold, -, rfl⟩ := mem_update.1 hz
  · exact ht z hz
  · exact hf old (ht old hold)

theorem tidy_coordinated {address : String} (h : isAddress address = true) (z : Zone)
    (hz : z.Tidy) : ({ z with coordinator := some address } : Zone).Tidy :=
  ⟨hz.trimmed, fun hc => ne_empty_of_isAddress h (Option.some.inj hc)⟩

theorem tidy_of_effect {e : Edit} {r : Except Issue Answer} (ht : ∀ z ∈ t.zones, z.Tidy)
    (eff : Effect t e r t') : ∀ z ∈ t'.zones, z.Tidy := by
  cases eff with
  | added entry name index =>
    intro z hz
    simp only [addNamed, List.mem_append, List.mem_singleton] at hz
    obtain hz | rfl := hz
    · exact ht z hz
    · constructor <;> simp
  | removed _ removed _ _ _ => exact fun z hz => ht z (mem_drop.1 hz).1
  | renamed id name _ _ => exact tidy_update ht fun z hz => ⟨hz.trimmed, hz.coordinator⟩
  | assigned target entries _ =>
    have hstored := (accept_spec (t.heldElsewhere target.id) entries).1
    refine tidy_update ht fun z _ => ⟨fun s hs => (hstored s hs).1, fun hc => ?_⟩
    exact ne_empty_of_isAddress (hstored "" (mem_of_coordinatorFor hc)).2.1 rfl
  | coordinated _ entry _ haddress _ => exact tidy_update ht (tidy_coordinated haddress)
  | strayed _ entry _ haddress _ => exact tidy_update ht (tidy_coordinated haddress)
  | cleared id => exact tidy_update ht fun z hz => ⟨hz.trimmed, by simp⟩
  | refused _ _ _ => exact ht

theorem plans_loadZones {zones : List Zone} (h : ∀ z ∈ zones, z.Tidy) (firstId : Nat) :
    (loadZones firstId (zones.map Zone.plan)).map Zone.plan = zones.map Zone.plan := by
  induction zones generalizing firstId with
  | nil => rfl
  | cons z zs ih =>
    obtain ⟨htrim, hcoordinator⟩ := h z List.mem_cons_self
    have hservers : z.servers.map Text.trim = z.servers := by
      rw [List.map_congr_left htrim, List.map_id']
    have hkept : z.coordinator.filter (· ≠ "") = z.coordinator := by
      cases hc : z.coordinator with
      | none => rfl
      | some c =>
        have hne : c ≠ "" := fun hempty => hcoordinator (hempty ▸ hc)
        simp [hne]
    have hrest := ih (fun y hy => h y (List.mem_cons_of_mem z hy)) (firstId + 1)
    simp only [List.map_cons, loadZones, hrest]
    simp only [Zone.plan, hservers, hkept]

theorem plans_ofPlans (hsome : t.zones ≠ []) (ht : ∀ z ∈ t.zones, z.Tidy) (firstId : Nat) :
    (ofPlans t.plans firstId).plans = t.plans := by
  have hplans : t.plans.isEmpty = false := by simpa [plans] using hsome
  simp only [ofPlans, hplans, Bool.false_eq_true, if_false]
  exact plans_loadZones ht firstId

theorem allServers_eq_plans (t : Topology) : t.allServers = t.plans.flatMap (·.servers) := by
  simp only [plans, List.flatMap_map]
  rfl

end Topology

theorem ConsistentPlans.consistent {t : Topology} (h : ConsistentPlans t.plans) :
    t.Consistent where
  nonempty := by simpa [Topology.plans] using h.nonempty
  zones := by
    intro z hz
    have hplan : z.plan ∈ t.plans := List.mem_map_of_mem hz
    exact ⟨h.names _ hplan, h.servers _ hplan, h.addresses _ hplan, h.coordinators _ hplan⟩
  names := by
    have hnames := h.distinctNames
    rwa [Topology.plans, List.map_map] at hnames
  servers := by
    rw [Topology.allServers_eq_plans]
    exact h.distinctServers

namespace NodeList

theorem reconcile_nil {current : List String} (h : current ≠ []) (pool : List String) :
    (reconcile current pool []).values = current := by
  unfold reconcile
  split
  next => simp
  next => simp [h]

theorem head?_toList {values : List String} (h : values.length ≤ 1) :
    values.head?.toList = values := by
  match values, h with
  | [], _ => rfl
  | [_], _ => rfl

end NodeList

namespace NodeForm
variable {f g : NodeForm} {d : Deployment} {chosen : Selection} {firstId : Nat}

/-- The name of the deployment is taken from the end of the home path once. -/
theorem stripName_append (appName path : String) :
    stripName appName (path ++ "/" ++ appName) = path := by
  have hlist : (path ++ "/" ++ appName).toList = path.toList ++ '/' :: appName.toList := by
    simp
  have hprefix : ('/' :: appName.toList).reverse.isPrefixOf
      (path.toList ++ '/' :: appName.toList).reverse = true := by
    rw [List.reverse_append, List.isPrefixOf_iff_prefix]
    exact List.prefix_append _ _
  simp only [stripName, hlist, hprefix, if_true, List.length_append, Nat.add_sub_cancel,
    List.take_left, String.ofList_toList]

structure Tidy (f : NodeForm) : Prop where
  zones : ∀ z ∈ f.topology.zones, z.Tidy
  homePath : f.homePath ≠ some ""

theorem Tidy.ofDeployment (d : Deployment) (chosen : Selection) (firstId : Nat) :
    (NodeForm.ofDeployment d chosen firstId).Tidy := by
  refine ⟨Topology.tidy_ofPlans _ firstId, fun h => ?_⟩
  simpa using (Option.filter_eq_some_iff.1 h).2

theorem Tidy.of_effect (hf : f.Tidy) (eff : Effect f g) : g.Tidy := by
  cases eff with
  | zones e r t h => exact ⟨Topology.tidy_of_effect hf.zones (Topology.apply_effect h), hf.homePath⟩
  | followed e r t removed h =>
    exact ⟨Topology.tidy_of_effect hf.zones (Topology.apply_effect h), hf.homePath⟩
  | proxy values _ => exact ⟨hf.zones, hf.homePath⟩
  | console values _ _ => exact ⟨hf.zones, hf.homePath⟩
  | login auth homePath h =>
    refine ⟨hf.zones, ?_⟩
    obtain rfl | h := h
    · exact hf.homePath
    · exact h

theorem Reachable.tidy (hf : Reachable d chosen firstId f) : f.Tidy := by
  induction hf with
  | load => exact Tidy.ofDeployment d chosen firstId
  | step _ h ih => exact ih.of_effect (apply_effect h)

/-- What an operator sees of a form is the same in another one. The identities of the zones differ,
and so may a node list that is empty or belongs to no chosen component. -/
structure Restores (chosen : Selection) (f g : NodeForm) : Prop where
  zones : g.topology.plans = f.topology.plans
  auth : g.auth = f.auth
  homePath : g.homePath = f.homePath
  proxy : chosen.enabled .proxy = true → f.proxyServers ≠ [] → g.proxyServers = f.proxyServers
  console : chosen.enabled .console = true → f.consoleServers ≠ [] →
    g.consoleServers = f.consoleServers

theorem homePath_restored (hf : f.Tidy) (appName : String) :
    ((f.homePath.map (· ++ "/" ++ appName)).map (stripName appName)).filter (· ≠ "") =
      f.homePath := by
  cases hpath : f.homePath with
  | none => rfl
  | some path =>
    have hne : path ≠ "" := fun hempty => hf.homePath (hempty ▸ hpath)
    simp [stripName_append, hne]

/-- Building a form from the draft that it was written into restores it. -/
theorem restores_ofDeployment (hf : Reachable d chosen firstId f) (nextId : Nat) :
    Restores chosen f (ofDeployment (f.writeInto d) chosen nextId) := by
  have hselection := hf.selection_eq
  constructor
  case zones => exact Topology.plans_ofPlans hf.wellFormed.identified.nonempty hf.tidy.zones nextId
  case auth => rfl
  case homePath =>
    simp only [ofDeployment, follow, writeInto, hf.appName_eq]
    exact homePath_restored hf.tidy d.name
  case proxy =>
    intro henabled hsome
    have hsaved : ((f.writeInto d).components.proxy.map (·.servers)).getD [] = f.proxyServers := by
      simp [writeInto, hselection, henabled]
    simp only [ofDeployment, follow, hsaved]
    exact NodeList.reconcile_nil hsome _
  case console =>
    intro henabled hsome
    have hsaved : (((f.writeInto d).components.console.map (·.servers)).bind List.head?).toList =
        f.consoleServers := by
      simp only [writeInto, hselection, henabled, if_true, Option.map_some, Option.bind_some]
      exact NodeList.head?_toList hf.wellFormed.console
    simp only [ofDeployment, follow, hsaved]
    rw [NodeList.reconcile_nil hsome, NodeList.collapse_of_length_le hf.wellFormed.console]

theorem lists_restored (hf : f.selection = chosen) (hvalid : f.validate = [])
    (h : Restores chosen f g) :
    (chosen.enabled .proxy = true → g.proxyServers = f.proxyServers) ∧
      (chosen.enabled .console = true → g.consoleServers = f.consoleServers) := by
  subst hf
  simp only [validate, List.append_eq_nil_iff] at hvalid
  obtain ⟨⟨⟨⟨⟨-, hconsole⟩, hproxy⟩, -⟩, -⟩, -⟩ := hvalid
  constructor
  · intro henabled
    exact h.proxy henabled (proxy_of_diagnostics hproxy henabled).1
  · intro henabled
    obtain ⟨s, hs, -⟩ := console_of_diagnostics hconsole henabled
    exact h.console henabled (by simp [hs])

theorem Restores.writeInto (h : Restores chosen f g) (hf : f.selection = chosen)
    (hg : g.selection = chosen) (hname : g.appName = f.appName) (hvalid : f.validate = [])
    (d : Deployment) : g.writeInto d = f.writeInto d := by
  obtain ⟨hproxy, hconsole⟩ := lists_restored hf hvalid h
  simp +contextual only [NodeForm.writeInto, Topology.allServers_eq_plans, h.zones, h.auth,
    h.homePath, hf, hg, hname, hproxy, hconsole]

theorem Restores.validate (h : Restores chosen f g) (hf : f.selection = chosen)
    (hg : g.selection = chosen) (hfw : f.WellFormed) (hgw : g.WellFormed)
    (hvalid : f.validate = []) : g.validate = [] := by
  obtain ⟨hproxy, hconsole⟩ := lists_restored hf hvalid h
  have hlists : g.proxyDiagnostics = f.proxyDiagnostics ∧
      g.consoleDiagnostics = f.consoleDiagnostics := by
    constructor
    · simp +contextual only [proxyDiagnostics, hf, hg, hproxy]
    · simp +contextual only [consoleDiagnostics, hf, hg, hconsole]
  simp only [NodeForm.validate, List.append_eq_nil_iff] at hvalid ⊢
  obtain ⟨⟨⟨⟨⟨htopology, hconsoles⟩, hproxies⟩, huser⟩, hport⟩, hhome⟩ := hvalid
  refine ⟨⟨⟨⟨⟨?_, ?_⟩, ?_⟩, ?_⟩, ?_⟩, ?_⟩
  · have hplans := ((Topology.validate_eq_nil_iff hfw.identified.distinct).1 htopology).plans
    rw [← h.zones] at hplans
    exact (Topology.validate_eq_nil_iff hgw.identified.distinct).2 hplans.consistent
  · rw [hlists.2]
    exact hconsoles
  · rw [hlists.1]
    exact hproxies
  · simpa only [userDiagnostics, h.auth] using huser
  · simpa only [portDiagnostics, h.auth] using hport
  · simpa only [homePathDiagnostics, h.homePath] using hhome

theorem reloaded_of_valid (hf : Reachable d chosen firstId f) (hvalid : f.validate = [])
    (nextId : Nat) :
    (ofDeployment (f.writeInto d) chosen nextId).validate = [] ∧
      (ofDeployment (f.writeInto d) chosen nextId).writeInto (f.writeInto d) = f.writeInto d := by
  have hrestores := restores_ofDeployment hf nextId
  constructor
  · exact hrestores.validate hf.selection_eq rfl hf.wellFormed
      (WellFormed.ofDeployment _ _ _) hvalid
  · rw [hrestores.writeInto hf.selection_eq rfl hf.appName_eq.symm hvalid, writeInto_writeInto]

end NodeForm

end DeployWizard
