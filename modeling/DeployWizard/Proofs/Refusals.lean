import DeployWizard.Proofs.AddressOwnership
import DeployWizard.Proofs.WizardRuns

set_option autoImplicit false

namespace DeployWizard

namespace Topology
variable {t t' : Topology}

inductive Refused (t : Topology) : Edit → Issue → Topology → Prop
  | kept (e : Edit) (issue : Issue) (h : ∀ a, issue ≠ .notInZone a) : Refused t e issue t
  | stored (before : List Zone) (z : Zone) (after : List Zone) (entry : String)
    (hzones : t.zones = before ++ z :: after) (hothers : ∀ y ∈ before ++ after, y.id ≠ z.id) :
    Refused t (.setCoordinator z.id entry) (.notInZone (Text.trim entry))
      { t with zones := before ++ { z with coordinator := some (Text.trim entry) } :: after }

theorem Identified.others (ht : t.Identified) {before after : List Zone} {z : Zone}
    (hzones : t.zones = before ++ z :: after) : ∀ y ∈ before ++ after, y.id ≠ z.id := by
  have hids := ht.distinct
  rw [ids, hzones, List.map_append, List.map_cons] at hids
  have hnew := (List.nodup_middle.1 hids).notMem
  intro y hy hid
  apply hnew
  rw [← hid, ← List.map_append]
  exact List.mem_map_of_mem hy

theorem Identified.place (ht : t.Identified) {z : Zone} (hz : z ∈ t.zones) :
    ∃ before after, t.zones = before ++ z :: after ∧ ∀ y ∈ before ++ after, y.id ≠ z.id := by
  obtain ⟨before, after, hzones⟩ := List.append_of_mem hz
  exact ⟨before, after, hzones, ht.others hzones⟩

theorem update_placed {before after : List Zone} {z : Zone} (f : Zone → Zone)
    (hzones : t.zones = before ++ z :: after) (hothers : ∀ y ∈ before ++ after, y.id ≠ z.id) :
    t.update z.id f = { t with zones := before ++ f z :: after } := by
  have hkept : ∀ zs : List Zone, (∀ y ∈ zs, y.id ≠ z.id) →
      zs.map (fun y => if y.id = z.id then f y else y) = zs := by
    intro zs h
    rw [List.map_congr_left fun y hy => if_neg (h y hy), List.map_id']
  have hbefore := hkept before fun y hy => hothers y (List.mem_append_left _ hy)
  have hafter := hkept after fun y hy => hothers y (List.mem_append_right _ hy)
  simp only [update, hzones, List.map_append, List.map_cons, if_true, hbefore, hafter]

theorem refused_of_apply (ht : t.Identified) {e : Edit} {issue : Issue}
    (h : t.apply e = some (.error issue, t')) : Refused t e issue t' := by
  cases apply_effect h with
  | refused _ _ hissue => exact .kept e issue hissue
  | strayed z entry hz _ _ =>
    obtain ⟨before, after, hzones, hothers⟩ := ht.place (mem_of_zone? hz).1
    rw [update_placed _ hzones hothers]
    exact .stored before z after entry hzones hothers

end Topology

namespace NodeForm
variable {f g : NodeForm}

inductive Refused (f : NodeForm) : Edit → Issue → NodeForm → Prop
  | kept (e : Edit) (issue : Issue) (h : ∀ a, issue ≠ .notInZone a) : Refused f e issue f
  | stored (id : ZoneId) (entry : String) (t : Topology)
    (h : f.topology.Refused (.setCoordinator id entry) (.notInZone (Text.trim entry)) t) :
    Refused f (.setCoordinator id entry) (.notInZone (Text.trim entry)) { f with topology := t }

theorem afterRemoval_error {x : Except Issue Zone × Topology} {issue : Issue}
    (h : f.afterRemoval x = (.error issue, g)) :
    x.1 = .error issue ∧ g = { f with topology := x.2 } := by
  obtain ⟨r, t⟩ := x
  cases r with
  | error e => cases h; exact ⟨rfl, rfl⟩
  | ok z => cases h

theorem eq_error_of_map {α β : Type} {k : α → β} {r : Except Issue α} {issue : Issue}
    (h : r.map k = .error issue) : r = .error issue := by
  cases r with
  | error e => cases h; rfl
  | ok a => cases h

theorem apply_error {e : Edit} {issue : Issue} (h : f.apply e = some (.error issue, g)) :
    ∃ e' t, f.topology.apply e' = some (.error issue, t) ∧ g = { f with topology := t } ∧
      ∀ id entry, e' = .setCoordinator id entry → e = .setCoordinator id entry := by
  cases e with
  | add name => simp [apply] at h
  | remove id =>
    obtain ⟨hr, hg⟩ := afterRemoval_error (x := f.topology.remove id) (Option.some.inj h)
    refine ⟨.remove id, (f.topology.remove id).2, ?_, hg, by simp⟩
    simp only [Topology.apply, hr, Except.map]
  | removeConfirmed id =>
    obtain ⟨hr, hg⟩ := afterRemoval_error (x := f.topology.removeConfirmed id) (Option.some.inj h)
    refine ⟨.removeConfirmed id, (f.topology.removeConfirmed id).2, ?_, hg, by simp⟩
    simp only [Topology.apply, hr, Except.map]
  | rename id name =>
    obtain ⟨hmap, hg⟩ := Prod.mk.inj (Option.some.inj h)
    have hr : (f.topology.rename id name).1 = .error issue := eq_error_of_map hmap
    refine ⟨.rename id name, (f.topology.rename id name).2, ?_, hg.symm, by simp⟩
    simp only [Topology.apply, hr, Except.map]
  | setServers id entries =>
    have h := Option.some.inj h
    unfold setServers at h
    split at h
    next edit t hedit =>
      cases h
      refine ⟨.setServers id entries, t, ?_, rfl, by simp⟩
      simp only [Topology.apply, hedit, Except.map]
    next => cases h
  | setCoordinator id entry =>
    obtain ⟨hmap, hg⟩ := Prod.mk.inj (Option.some.inj h)
    have hr : (f.topology.setCoordinator id entry).1 = .error issue := eq_error_of_map hmap
    refine ⟨.setCoordinator id entry, (f.topology.setCoordinator id entry).2, ?_, hg.symm, by simp⟩
    simp only [Topology.apply, hr, Except.map]
  | setProxyServers entries => cases h
  | setConsoleServers entries => cases h
  | setUser entry => cases h
  | setPassword password => cases h
  | setPort port => cases h
  | setHomePath entry => cases h
  | applyServiceInfo info => cases h

theorem refused_of_apply (hf : f.topology.Identified) {e : Edit} {issue : Issue}
    (h : f.apply e = some (.error issue, g)) : f.Refused e issue g := by
  obtain ⟨e', t, happly, rfl, hsame⟩ := apply_error h
  cases Topology.refused_of_apply hf happly with
  | kept _ _ hissue => exact .kept e issue hissue
  | stored before z after entry hzones hothers =>
    rw [hsame z.id entry rfl]
    exact .stored z.id entry _ (.stored before z after entry hzones hothers)

end NodeForm

namespace Wizard
variable {w w' : Wizard}

inductive Refusal where
  | step (e : StepError)
  | edit (issue : Issue)
  deriving DecidableEq

def Refusal.of? {ε α : Type} (why : ε → Refusal) : Except ε α → Option Refusal
  | .ok _ => none
  | .error e => some (why e)

def refusal? (w : Wizard) : Action → Option Refusal
  | .next => Refusal.of? .step w.next.1
  | .previous => Refusal.of? .step w.previous.1
  | .finishInstall status => Refusal.of? .step (w.finishInstall status).1
  | .setSelection selection => Refusal.of? .step (w.setSelection selection).1
  | .editForm edit =>
    w.form.bind fun f => (f.apply edit).bind fun (result, _) => Refusal.of? .edit result
  | .pushError _ | .clearErrors => none

inductive Refused (w : Wizard) : Action → Refusal → Wizard → Prop
  | kept (a : Action) (r : Refusal) (h : ∀ address, r ≠ .edit (.notInZone address)) :
    Refused w a r w
  | stored (f : NodeForm) (id : ZoneId) (entry : String) (g : NodeForm) (hform : w.form = some f)
    (h : f.Refused (.setCoordinator id entry) (.notInZone (Text.trim entry)) g) :
    Refused w (.editForm (.setCoordinator id entry)) (.edit (.notInZone (Text.trim entry)))
      { w with form := some g }

theorem Refusal.of?_eq_some {ε α : Type} {why : ε → Refusal} {result : Except ε α} {r : Refusal}
    (h : Refusal.of? why result = some r) : ∃ e, result = .error e ∧ r = why e := by
  cases result with
  | ok a => cases h
  | error e => exact ⟨e, rfl, (Option.some.inj h).symm⟩

theorem refused_of_error {α : Type} {x : Except StepError α × Wizard}
    (hx : (∃ a v, x = (.ok a, v)) ∨ ∃ e, x = (.error e, w)) {a : Action} {r : Refusal}
    (h : some x.2 = some w') (hr : Refusal.of? .step x.1 = some r) : w.Refused a r w' := by
  obtain ⟨e, he, rfl⟩ := Refusal.of?_eq_some hr
  obtain ⟨_, _, rfl⟩ | ⟨_, rfl⟩ := hx
  · cases he
  · cases h
    exact .kept a _ (by simp)

theorem refused_of_apply (hw : w.Housed) {a : Action} {r : Refusal} (h : w.apply a = some w')
    (hr : w.refusal? a = some r) : w.Refused a r w' := by
  cases a with
  | next =>
    refine refused_of_error (w.next_cases.imp_left ?_) h hr
    rintro ⟨step, -, -, hnext⟩
    exact ⟨step, _, hnext⟩
  | previous =>
    refine refused_of_error (w.previous_cases.imp_left ?_) h hr
    rintro ⟨step, -, hprevious⟩
    exact ⟨step, _, hprevious⟩
  | finishInstall status =>
    exact refused_of_error ((w.finishInstall_cases status).imp_left fun hok => ⟨_, _, hok.2⟩) h hr
  | setSelection selection =>
    exact refused_of_error ((w.setSelection_cases selection).imp_left fun hok => ⟨_, _, hok.2⟩) h hr
  | editForm edit =>
    obtain ⟨f, hform, hr⟩ := Option.bind_eq_some_iff.1 hr
    obtain ⟨⟨result, g⟩, hedit, hr⟩ := Option.bind_eq_some_iff.1 hr
    obtain ⟨issue, rfl, rfl⟩ := Refusal.of?_eq_some hr
    simp only [apply, hform, hedit, Option.map_some, Option.some.injEq] at h
    subst h
    cases NodeForm.refused_of_apply (hw.wellFormed hform).identified hedit with
    | kept _ _ hissue =>
      -- The form that comes back is the one the wizard has.
      rw [← hform]
      exact .kept _ _ (by simpa using hissue)
    | stored id entry t hstored => exact .stored f id entry _ hform (.stored id entry t hstored)
  | pushError message => cases hr
  | clearErrors => cases hr

end Wizard

/-- In every run of a zone list, of a form and of a wizard, an operation that is refused changes
nothing, except that a coordinator from outside its zone is stored there. -/
theorem refused_unchanged :
    (∀ ⦃plans firstId past⦄ ⦃t : Topology⦄, Topology.Run plans firstId past t →
      ∀ ⦃e issue t'⦄, t.apply e = some (.error issue, t') → t.Refused e issue t') ∧
    (∀ ⦃d chosen firstId⦄ ⦃f : NodeForm⦄, NodeForm.Reachable d chosen firstId f →
      ∀ ⦃e issue g⦄, f.apply e = some (.error issue, g) → f.Refused e issue g) ∧
    ∀ ⦃draft selection⦄ ⦃w : Wizard⦄, Wizard.Reachable draft selection w →
      ∀ ⦃a r w'⦄, w.apply a = some w' → w.refusal? a = some r → w.Refused a r w' := by
  refine ⟨fun _ _ _ _ run _ _ _ h => ?_, fun _ _ _ _ hf _ _ _ h => ?_,
    fun _ _ _ hw _ _ _ h hr => ?_⟩
  · exact Topology.refused_of_apply run.identified h
  · exact NodeForm.refused_of_apply hf.wellFormed.identified h
  · exact Wizard.refused_of_apply hw.housed h hr

theorem refused_unchanged_on_node_step :
    let plans : List ZonePlan := [⟨"zone1", ["10.0.0.1"], none⟩]
    let d : Deployment := { components := { database := { zones := plans } } }
    let t := Topology.ofPlans plans 0
    let f := NodeForm.ofDeployment d {} 0
    let g : NodeForm :=
      { f with topology := ⟨[⟨.minted 0, "zone1", ["10.0.0.1"], some "10.0.0.9"⟩], 2, 1⟩ }
    let w := (Wizard.start d {}).next.2
    let missing : List Diagnostic :=
      [⟨.zoneCoordinator (.minted 0), .required⟩, ⟨.user, .required⟩, ⟨.homePath, .required⟩]
    (Topology.Run plans 0 [] t ∧
      t.apply (.removeConfirmed (.minted 0)) = some (.error .lastZone, t) ∧
      t.Refused (.removeConfirmed (.minted 0)) .lastZone t) ∧
    (NodeForm.Reachable d {} 0 f ∧
      f.apply (.setCoordinator (.minted 0) " 10.0.0.9") = some (.error (.notInZone "10.0.0.9"), g) ∧
      f.Refused (.setCoordinator (.minted 0) " 10.0.0.9") (.notInZone "10.0.0.9") g) ∧
    (Wizard.Reachable d {} w ∧ w.apply .next = some w ∧
      w.refusal? .next = some (.step (.formInvalid missing)) ∧
      w.Refused .next (.step (.formInvalid missing)) w) := by
  intro plans d t f g w missing
  have hlast : t.apply (.removeConfirmed (.minted 0)) = some (.error .lastZone, t) := by
    decide +kernel
  have hstored : f.apply (.setCoordinator (.minted 0) " 10.0.0.9") =
      some (.error (.notInZone "10.0.0.9"), g) := by
    decide +kernel
  have hw : Wizard.Reachable d {} w := .step .start (a := .next) rfl
  have hnext : w.apply .next = some w := by decide +kernel
  have hmissing : w.refusal? .next = some (.step (.formInvalid missing)) := by decide +kernel
  exact ⟨⟨.load, hlast, refused_unchanged.1 .load hlast⟩,
    ⟨.load, hstored, refused_unchanged.2.1 .load hstored⟩,
    ⟨hw, hnext, hmissing, refused_unchanged.2.2 hw hnext hmissing⟩⟩

end DeployWizard
