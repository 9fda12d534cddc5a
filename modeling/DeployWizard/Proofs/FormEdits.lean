import DeployWizard.NodeForm
import DeployWizard.Proofs.ZoneEdits

set_option autoImplicit false

namespace DeployWizard

namespace NodeList

theorem length_collapse_le (values : List String) : (collapse values).values.length ≤ 1 := by
  unfold collapse
  split
  next h => exact h
  next => cases values.getLast? <;> simp

theorem collapse_of_length_le {values : List String} (h : values.length ≤ 1) :
    collapse values = { values } := if_pos h

theorem mem_of_mem_collapse {values : List String} {v : String}
    (h : v ∈ (collapse values).values) : v ∈ values := by
  unfold collapse at h
  split at h
  next => exact h
  next => exact List.mem_of_getLast? (Option.mem_toList.1 h)

theorem mem_of_mem_reconcile {current pool removed : List String} {v : String}
    (h : v ∈ (reconcile current pool removed).values) : v ∈ current ∨ v ∈ pool := by
  unfold reconcile at h
  split at h
  next => exact Or.inl (List.mem_filter.1 h).1
  next first rest =>
    have hfirst : v ∈ [first] → v ∈ current ∨ v ∈ first :: rest := by
      intro hv
      exact Or.inr (List.mem_singleton.1 hv ▸ List.mem_cons_self)
    split at h
    next => exact hfirst h
    next =>
      simp only at h
      split at h
      next => exact hfirst h
      next => exact Or.inl (List.mem_filter.1 h).1

theorem trim_of_mem_gather {seen entries : List String}
    (hseen : ∀ v ∈ seen, Text.trim v = v) : ∀ v ∈ gather seen entries, Text.trim v = v := by
  fun_induction gather seen entries with
  | case1 seen => exact hseen
  | case2 seen entry entries value _ ih => exact ih hseen
  | case3 seen entry entries value _ ih =>
    refine ih fun v hv => ?_
    obtain hv | hv := List.mem_append.1 hv
    · exact hseen v hv
    · rw [List.mem_singleton.1 hv]
      exact Text.trim_trim entry

theorem trim_of_mem_normalize {entries : List String} :
    ∀ v ∈ normalize entries, Text.trim v = v :=
  trim_of_mem_gather (by simp)

end NodeList

theorem defaultHomePath_ne_empty (user : String) : defaultHomePath user ≠ "" := by
  unfold defaultHomePath
  split <;> simp [String.append_eq_empty_iff]

namespace NodeForm

inductive Edit where
  | add (name : Option String)
  | remove (id : ZoneId)
  | removeConfirmed (id : ZoneId)
  | rename (id : ZoneId) (name : String)
  | setServers (id : ZoneId) (entries : List String)
  | setCoordinator (id : ZoneId) (entry : String)
  | setProxyServers (entries : List String)
  | setConsoleServers (entries : List String)
  | setUser (entry : String)
  | setPassword (password : Option String)
  | setPort (port : UInt16)
  | setHomePath (entry : String)
  | applyServiceInfo (info : ServiceInfo)
  deriving DecidableEq

/-- What the edit reports and the form after it; none if a default name is never found. -/
def apply (f : NodeForm) : Edit → Option (Except Issue (List Diagnostic) × NodeForm)
  | .add name => (f.add? name).map fun (_, f) => (.ok [], f)
  | .remove id => some (f.remove id)
  | .removeConfirmed id => some (f.removeConfirmed id)
  | .rename id name => some ((f.rename id name).1.map fun _ => [], (f.rename id name).2)
  | .setServers id entries => some (f.setServers id entries)
  | .setCoordinator id entry =>
    some ((f.setCoordinator id entry).1.map fun _ => [], (f.setCoordinator id entry).2)
  | .setProxyServers entries =>
    some (.ok (f.setProxyServers entries).1, (f.setProxyServers entries).2)
  | .setConsoleServers entries =>
    some (.ok (f.setConsoleServers entries).1, (f.setConsoleServers entries).2)
  | .setUser entry => some (.ok [], f.setUser entry)
  | .setPassword password => some (.ok [], f.setPassword password)
  | .setPort port => some (.ok [], f.setPort port)
  | .setHomePath entry => some (.ok [], f.setHomePath entry)
  | .applyServiceInfo info => some (.ok [], f.applyServiceInfo info)

/-- Everything an edit can change: the zones, alone or with the node lists after them, or fields
that have nothing to do with the zones. -/
inductive Effect (f : NodeForm) : NodeForm → Prop
  | zones (e : Topology.Edit) (r : Except Issue Topology.Answer) (t : Topology)
    (h : f.topology.apply e = some (r, t)) : Effect f { f with topology := t }
  | followed (e : Topology.Edit) (r : Except Issue Topology.Answer) (t : Topology)
    (removed : List String) (h : f.topology.apply e = some (r, t)) :
    Effect f ({ f with topology := t }.follow removed).2
  | proxy (values : List String) (htrim : ∀ v ∈ values, Text.trim v = v) :
    Effect f { f with proxyServers := values }
  | console (values : List String) (h : values.length ≤ 1)
    (htrim : ∀ v ∈ values, Text.trim v = v) : Effect f { f with consoleServers := values }
  | login (auth : Auth) (homePath : Option String)
    (h : homePath = f.homePath ∨ homePath ≠ some "") : Effect f { f with auth, homePath }

theorem effect_setUser (f : NodeForm) (entry : String) : Effect f (f.setUser entry) := by
  refine .login _ _ ?_
  split
  · exact Or.inl rfl
  · exact Or.inr fun h => defaultHomePath_ne_empty _ (Option.some.inj h)

theorem effect_afterRemoval {f g : NodeForm} {e : Topology.Edit} {r : Except Issue Zone}
    {t : Topology} (h : f.topology.apply e = some (r.map .removed, t))
    {ds : Except Issue (List Diagnostic)} (hg : f.afterRemoval (r, t) = (ds, g)) : Effect f g := by
  cases r with
  | error issue => cases hg; exact .zones e _ t h
  | ok z => cases hg; exact .followed e _ t z.servers h

theorem apply_effect {f g : NodeForm} {e : Edit} {r : Except Issue (List Diagnostic)}
    (h : f.apply e = some (r, g)) : Effect f g := by
  cases e with
  | add name =>
    simp only [apply, add?, Option.map_map, Option.map_eq_some_iff] at h
    obtain ⟨⟨id, t⟩, hadd, h⟩ := h
    cases h
    exact .zones (.add name) (.ok (.added id)) t (by simp [Topology.apply, hadd])
  | remove id =>
    exact effect_afterRemoval (e := .remove id) rfl (Option.some.inj h)
  | removeConfirmed id =>
    exact effect_afterRemoval (e := .removeConfirmed id) rfl (Option.some.inj h)
  | rename id name =>
    cases h
    exact .zones (.rename id name) _ _ rfl
  | setServers id entries =>
    have happly : f.topology.apply (.setServers id entries) =
        some ((f.topology.setServers id entries).1.map .assigned,
          (f.topology.setServers id entries).2) := rfl
    simp only [apply, setServers, Option.some.injEq] at h
    split at h
    next issue t hedit =>
      cases h
      rw [hedit] at happly
      exact .zones _ _ t happly
    next edit t hedit =>
      cases h
      rw [hedit] at happly
      exact .followed _ _ t edit.removed happly
  | setCoordinator id entry =>
    cases h
    exact .zones (.setCoordinator id entry) _ _ rfl
  | setProxyServers entries =>
    cases h
    exact .proxy _ NodeList.trim_of_mem_normalize
  | setConsoleServers entries =>
    cases h
    refine .console _ (NodeList.length_collapse_le _) fun v hv => ?_
    exact NodeList.trim_of_mem_normalize v (NodeList.mem_of_mem_collapse hv)
  | setUser entry =>
    cases h
    exact effect_setUser f entry
  | setPassword password =>
    cases h
    exact .login _ _ (Or.inl rfl)
  | setPort port =>
    cases h
    exact .login _ _ (Or.inl rfl)
  | setHomePath entry =>
    cases h
    refine .login _ _ (Or.inr ?_)
    split
    next => simp
    next hpath => simpa using hpath
  | applyServiceInfo info =>
    cases h
    unfold applyServiceInfo
    split
    · exact effect_setUser f info.user
    · exact .login f.auth f.homePath (Or.inl rfl)

/-- What every form keeps: its zones are told apart, and the console has at most one node. -/
structure WellFormed (f : NodeForm) : Prop where
  identified : f.topology.Identified
  console : f.consoleServers.length ≤ 1

namespace WellFormed
variable {f g : NodeForm}

theorem of_effect (hf : f.WellFormed) (eff : Effect f g) : g.WellFormed := by
  cases eff with
  | zones e r t h => exact ⟨hf.identified.of_effect (Topology.apply_effect h), hf.console⟩
  | followed e r t removed h =>
    exact ⟨hf.identified.of_effect (Topology.apply_effect h), NodeList.length_collapse_le _⟩
  | proxy values _ => exact ⟨hf.identified, hf.console⟩
  | console values h _ => exact ⟨hf.identified, h⟩
  | login auth homePath _ => exact ⟨hf.identified, hf.console⟩

theorem ofDeployment (d : Deployment) (s : Selection) (firstId : Nat) :
    (NodeForm.ofDeployment d s firstId).WellFormed :=
  ⟨Topology.identified_ofPlans _ firstId, NodeList.length_collapse_le _⟩

end WellFormed

theorem selection_of_effect {f g : NodeForm} (eff : Effect f g) : g.selection = f.selection := by
  cases eff <;> rfl

theorem appName_of_effect {f g : NodeForm} (eff : Effect f g) : g.appName = f.appName := by
  cases eff <;> rfl

inductive Reachable (d : Deployment) (s : Selection) (firstId : Nat) : NodeForm → Prop
  | load : Reachable d s firstId (ofDeployment d s firstId)
  | step {f g : NodeForm} {e : Edit} {r : Except Issue (List Diagnostic)}
    (hf : Reachable d s firstId f) (h : f.apply e = some (r, g)) : Reachable d s firstId g

namespace Reachable
variable {d : Deployment} {s : Selection} {firstId : Nat} {f : NodeForm}

theorem wellFormed (hf : Reachable d s firstId f) : f.WellFormed := by
  induction hf with
  | load => exact WellFormed.ofDeployment d s firstId
  | step _ h ih => exact ih.of_effect (apply_effect h)

theorem selection_eq (hf : Reachable d s firstId f) : f.selection = s := by
  induction hf with
  | load => rfl
  | step _ h ih => exact (selection_of_effect (apply_effect h)).trans ih

theorem appName_eq (hf : Reachable d s firstId f) : f.appName = d.name := by
  induction hf with
  | load => rfl
  | step _ h ih => exact (appName_of_effect (apply_effect h)).trans ih

end Reachable

end NodeForm

end DeployWizard
