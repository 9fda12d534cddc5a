import DeployWizard.Proofs.Gate

set_option autoImplicit false

/-!
What the review lists next to the database. The sections of the proxy, the agents and the console
are made when they are missing, so these are listed iff they are enabled. A config server is listed
only if it was loaded with the draft and was enabled each time that the node step was left.
-/
namespace DeployWizard

def Components.has (c : Components) : Component → Bool
  | .proxy => c.proxy.isSome
  | .agent => c.agent.isSome
  | .console => c.console.isSome
  | .configServer => c.configServer.isSome

namespace Review

def order : List Component := [.proxy, .agent, .console, .configServer]

def kinds (r : Review) : List (Option Component) :=
  r.components.map (·.kind)

theorem kinds_ofDeployment (d : Deployment) :
    (ofDeployment d).kinds = none :: (order.filter d.components.has).map some := by
  obtain ⟨auth, ⟨database, proxy, agent, console, configServer⟩, homePath⟩ := d
  cases proxy <;> cases agent <;> cases console <;> cases configServer <;> rfl

theorem of_agent_mem {d : Deployment} {e : ComponentSummary} (he : e ∈ (ofDeployment d).components)
    (hkind : e.kind = some .agent) : ∃ a, d.components.agent = some a ∧ e.servers = a.servers := by
  simp only [ofDeployment, List.mem_cons, List.mem_append, Option.mem_toList,
    Option.map_eq_some_iff] at he
  rcases he with rfl | ((⟨_, _, rfl⟩ | ⟨a, ha, rfl⟩) | ⟨_, _, rfl⟩) | ⟨_, _, rfl⟩
  · cases hkind
  · cases hkind
  · exact ⟨a, ha, rfl⟩
  · cases hkind
  · cases hkind

end Review

theorem NodeForm.configServer_writeInto (f : NodeForm) (d : Deployment) :
    (f.writeInto d).components.configServer =
      if f.selection.enabled .configServer then d.components.configServer else none :=
  rfl

theorem Submittable.has_eq_enabled {chosen : Selection} {d : Deployment} (h : Submittable chosen d)
    {k : Component} (hk : k ≠ .configServer) : d.components.has k = chosen.enabled k := by
  cases k with
  | proxy => exact Bool.eq_iff_iff.2 h.proxy
  | agent => exact Bool.eq_iff_iff.2 h.agent
  | console => exact Bool.eq_iff_iff.2 h.console
  | configServer => exact absurd rfl hk

theorem Submittable.enabled_of_has {chosen : Selection} {d : Deployment} (h : Submittable chosen d)
    (hhas : d.components.has .configServer) : chosen.enabled .configServer = true := by
  by_contra hdisabled
  have hnone := h.configServer (by simpa using hdisabled)
  simp [Components.has, hnone] at hhas

namespace Wizard

def leaving (w w' : Wizard) : List Selection :=
  if w.step = .nodeConfig ∧ w'.step ≠ .nodeConfig then [w.selection] else []

/-- The wizards reached from a draft, with the selections with which the node step was left. -/
inductive Passage (draft : Deployment) (selection : Selection) : List Selection → Wizard → Prop
  | start : Passage draft selection [] (start draft selection)
  | step {left : List Selection} {w w' : Wizard} {a : Action}
    (hw : Passage draft selection left w) (h : w.apply a = some w') :
    Passage draft selection (w.leaving w' ++ left) w'

def pass (s : List Selection × Wizard) (a : Action) : Option (List Selection × Wizard) :=
  (s.2.apply a).map fun w => (s.2.leaving w ++ s.1, w)

namespace Passage
variable {draft : Deployment} {selection : Selection} {left : List Selection} {w : Wizard}

theorem reachable (hw : Passage draft selection left w) : Reachable draft selection w := by
  induction hw with
  | start => exact .start
  | step _ h ih => exact ih.step h

theorem of_reachable (hw : Reachable draft selection w) :
    ∃ left, Passage draft selection left w := by
  induction hw with
  | start => exact ⟨[], .start⟩
  | step _ h ih =>
    obtain ⟨left, hleft⟩ := ih
    exact ⟨_, hleft.step h⟩

theorem run (hw : Passage draft selection left w) {left' : List Selection} {w' : Wizard}
    {actions : List Action} (h : actions.foldlM pass (left, w) = some (left', w')) :
    Passage draft selection left' w' := by
  induction actions generalizing left w with
  | nil => cases h; exact hw
  | cons a actions ih =>
    rw [List.foldlM_cons, Option.bind_eq_bind, Option.bind_eq_some_iff] at h
    obtain ⟨_, hpass, h⟩ := h
    obtain ⟨next, happly, rfl⟩ := Option.map_eq_some_iff.1 hpass
    exact ih (hw.step happly) h

end Passage

theorem configServer_enter {w : Wizard} (hw : w.Housed) {step : Step}
    (hstep : w.step = .nodeConfig → step ≠ .nodeConfig) :
    (w.enter step).draft.components.configServer =
      if (w.leaving (w.enter step)).all (·.enabled .configServer)
      then w.draft.components.configServer else none := by
  rw [draft_enter, leaving, step_enter]
  by_cases hnode : w.step = .nodeConfig
  · obtain ⟨f, hform⟩ := Option.isSome_iff_exists.1 (hw.form.2 hnode)
    obtain ⟨firstId, hf⟩ := hw.built f hform
    rw [draft_leaveForm_of_some hform, NodeForm.configServer_writeInto, hf.selection_eq]
    simp [hnode, hstep hnode]
  · rw [draft_leaveForm_of_none (hw.form_eq_none hnode)]
    simp [hnode]

/-- Only leaving the node step with the config server disabled takes its section. -/
theorem configServer_of_effect {w w' : Wizard} (hw : w.Housed) (eff : Effect w w') :
    w'.draft.components.configServer =
      if (w.leaving w').all (·.enabled .configServer) then w.draft.components.configServer
      else none := by
  have hkept : ∀ v : Wizard, v.step = w.step → w.leaving v = [] := by
    intro v hstep
    simp [leaving, hstep]
  cases eff with
  | kept => rw [hkept w rfl]; rfl
  | advanced step hstep _ =>
    apply configServer_enter hw
    rintro hnode rfl
    simp [hnode, Step.next?] at hstep
  | wentBack step hstep =>
    apply configServer_enter hw
    rintro hnode rfl
    simp [hnode, Step.previous?] at hstep
  | finished hstep => exact configServer_enter hw (by simp)
  | chose selection _ => rw [hkept { w with selection } rfl]; rfl
  | edited f g e r hform h => rw [hkept { w with form := some g } rfl]; rfl
  | noted errors => rw [hkept { w with errors } rfl]; rfl

/-- Whether a config server that came with the draft is in it still. -/
def keepsConfigServer (draft : Deployment) (left : List Selection) : Bool :=
  draft.components.has .configServer && left.all (·.enabled .configServer)

namespace Passage
variable {draft : Deployment} {selection : Selection} {left : List Selection} {w : Wizard}

theorem configServer (hw : Passage draft selection left w) :
    w.draft.components.configServer =
      if left.all (·.enabled .configServer) then draft.components.configServer else none := by
  induction hw with
  | start => rfl
  | step hw h ih =>
    rw [configServer_of_effect hw.reachable.housed (apply_effect h), ih]
    simp only [List.all_append, Bool.and_eq_true, ite_and]

theorem has_configServer (hw : Passage draft selection left w) :
    w.draft.components.has .configServer = keepsConfigServer draft left := by
  rw [Components.has, hw.configServer, keepsConfigServer, Components.has]
  cases left.all (·.enabled .configServer) <;> simp

/-- Beyond the node step the draft has a section for each enabled component, a config server that
was not kept apart. -/
theorem has_eq (hw : Passage draft selection left w) (hbeyond : Beyond w.step) (k : Component) :
    w.draft.components.has k =
      (w.selection.enabled k && (k ≠ .configServer || keepsConfigServer draft left)) := by
  have hsubmittable := hw.reachable.gated.passed hbeyond
  by_cases hk : k = .configServer
  · subst hk
    have henabled := hsubmittable.enabled_of_has
    rw [hw.has_configServer] at henabled ⊢
    cases hkept : keepsConfigServer draft left with
    | false => simp
    | true => simp [henabled hkept]
  · simp [hsubmittable.has_eq_enabled hk, hk]

end Passage

/-- On the step where the draft is checked, the review lists the database and then each enabled
component once, in a fixed order, apart from a config server that was not kept; so it lists exactly
the enabled components iff an enabled config server was kept. The agents run where the database
does. -/
theorem review_lists_enabled_iff {draft : Deployment} {selection : Selection} {w : Wizard}
    (hw : Reachable draft selection w) (hcheck : w.step = .checkInfo) :
    (∃ left, Passage draft selection left w) ∧
      ∀ left, Passage draft selection left w →
        (w.review.kinds = none :: (Review.order.filter w.selection.enabled).map some ↔
            (w.selection.enabled .configServer → keepsConfigServer draft left)) ∧
          w.review.kinds = none :: (Review.order.filter fun k =>
            w.selection.enabled k &&
              (k ≠ .configServer || keepsConfigServer draft left)).map some ∧
          ∀ e ∈ w.review.components, e.kind = some .agent →
            ∀ database ∈ w.review.components.head?, e.servers = database.servers := by
  refine ⟨Passage.of_reachable hw, fun left hpassage => ?_⟩
  have hbeyond : Beyond w.step := by simp [hcheck, Beyond, Step.number]
  have hsubmittable := hw.gated.passed hbeyond
  have hkinds : w.review.kinds = none :: (Review.order.filter fun k =>
      w.selection.enabled k && (k ≠ .configServer || keepsConfigServer draft left)).map some := by
    rw [review, Review.kinds_ofDeployment, List.filter_congr fun k _ => hpassage.has_eq hbeyond k]
  refine ⟨?_, hkinds, ?_⟩
  · rw [hkinds, List.cons_inj_right, List.map_inj_right fun _ _ => Option.some.inj]
    constructor
    · intro hsame henabled
      have hlisted : Component.configServer ∈ Review.order.filter w.selection.enabled :=
        List.mem_filter.2 ⟨by decide, henabled⟩
      rw [← hsame] at hlisted
      simpa [henabled] using (List.mem_filter.1 hlisted).2
    · intro hkept
      apply List.filter_congr
      intro k _
      by_cases hk : k = .configServer
      · subst hk
        cases henabled : w.selection.enabled .configServer with
        | false => rfl
        | true => simp [hkept henabled]
      · simp [hk]
  · intro e he hkind database hdatabase
    obtain ⟨a, ha, hservers⟩ := Review.of_agent_mem he hkind
    obtain rfl : _ = database := Option.some.inj hdatabase
    rw [hservers, hsubmittable.agentServers a ha]

theorem review_lists_enabled_after_second_choice :
    let zones : List ZonePlan := [⟨"zone1", ["10.0.0.1"], some "10.0.0.1"⟩]
    let draft : Deployment :=
      { auth := some { user := "admin" }
        components :=
          { database := { appName := "demo", zones }
            configServer := some { version := "1.0.0", servers := ["10.0.0.9"] } }
        homePath := some "/home/admin/demo" }
    let first : Selection := { selected := [.proxy, .configServer] }
    let second : Selection := { selected := [.configServer, .agent, .console], lowVersion := true }
    let w : Wizard :=
      { step := .checkInfo
        draft :=
          { draft with
            components :=
              { draft.components with agent := some { servers := ["10.0.0.1"] } } }
        selection := second
        errors := []
        form := none
        nextId := 2 }
    Passage draft first [second, first] w ∧ w.step = .checkInfo ∧
      w.review.kinds = [none, some .agent, some .configServer] := by
  intro zones draft first second w
  have hpass : [Action.next, .previous, .setSelection second, .next, .next, .next].foldlM pass
      ([], start draft first) = some ([second, first], w) := by
    decide +kernel
  have hw : Passage draft first [second, first] w := Passage.start.run hpass
  exact ⟨hw, rfl, ((review_lists_enabled_iff hw.reachable rfl).2 _ hw).2.1⟩

theorem review_lacks_config_server :
    ¬∀ (draft : Deployment) (selection : Selection) (w : Wizard),
      Reachable draft selection w → w.step = .checkInfo →
        w.review.kinds = none :: (Review.order.filter w.selection.enabled).map some := by
  intro hlists
  let zones : List ZonePlan := [⟨"zone1", ["10.0.0.1"], some "10.0.0.1"⟩]
  let draft : Deployment :=
    { auth := some { user := "admin" }
      components := { database := { appName := "demo", zones } }
      homePath := some "/home/admin/demo" }
  let selection : Selection := { selected := [.configServer] }
  have hrun : [Action.next, .next, .next].foldlM apply (start draft selection) =
      some { step := .checkInfo, draft, selection, errors := [], form := none, nextId := 1 } := by
    decide +kernel
  have hkinds := hlists draft selection _ (Reachable.start.run hrun) rfl
  exact absurd hkinds (by decide)

end Wizard

end DeployWizard
