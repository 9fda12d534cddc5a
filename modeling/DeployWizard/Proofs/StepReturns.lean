import DeployWizard.Proofs.Reloading

set_option autoImplicit false

namespace DeployWizard.Wizard
variable {draft : Deployment} {selection : Selection} {w : Wizard} {f : NodeForm}

theorem complaints_of_none (h : w.form = none) : w.complaints = [] := by
  simp only [complaints, h]

theorem form_enter_of_ne {step : Step} (h : step ≠ .nodeConfig) (w : Wizard) :
    (w.enter step).form = none := by
  rw [form_enter, if_neg h]

theorem enter_of_ne {step : Step} (h : step ≠ .nodeConfig) (w : Wizard) :
    w.enter step =
      { step
        draft := w.leaveForm.draft
        selection := w.selection
        errors := []
        form := none
        nextId := w.leaveForm.nextId } := by
  rw [← selection_leaveForm]
  simp only [enter, if_neg h]

/-- The node step, left with a form in it and entered again, has a form that restores that one. -/
theorem restores_reentered (hw : w.Housed) (hform : w.form = some f) {step : Step}
    (hstep : step ≠ .nodeConfig) :
    ∃ g, ((w.enter step).enter .nodeConfig).form = some g ∧ f.Restores w.selection g := by
  obtain ⟨firstId, hf⟩ := hw.built f hform
  have hdraft : (w.enter step).leaveForm.draft = f.writeInto w.draft := by
    rw [draft_leaveForm_of_none (form_enter_of_ne hstep w), draft_enter,
      draft_leaveForm_of_some hform]
  refine ⟨_, ?_, NodeForm.restores_ofDeployment hf (w.enter step).leaveForm.nextId⟩
  rw [form_enter, if_pos rfl, selection_enter, hdraft]

structure SurvivesLeaving (w : Wizard) (f : NodeForm) : Prop where
  backwards : ∃ v u g, w.previous = (.ok .deployConfig, v) ∧ v.next = (.ok .nodeConfig, u) ∧
    u.form = some g ∧ f.Restores w.selection g
  forwards : ∀ step v, w.next = (.ok step, v) →
    ∃ u g, v.previous = (.ok .nodeConfig, u) ∧ u.form = some g ∧ f.Restores w.selection g

/-- On the node step no edit is lost by leaving it and coming back, however the wizard got there. -/
theorem form_survives_leaving (hw : Reachable draft selection w) (hnode : w.step = .nodeConfig) :
    ∃ f, w.form = some f ∧ w.SurvivesLeaving f := by
  obtain ⟨f, hform⟩ := Option.isSome_iff_exists.1 (hw.housed.form.2 hnode)
  refine ⟨f, hform, ?_, ?_⟩
  · obtain ⟨g, hg, hrestores⟩ :=
      restores_reentered hw.housed hform (show Step.deployConfig ≠ .nodeConfig by simp)
    refine ⟨w.enter .deployConfig, _, g, ?_, ?_, hg, hrestores⟩
    · exact previous_eq_ok_iff.2 ⟨by rw [hnode]; rfl, rfl⟩
    · exact next_eq_ok_iff.2 ⟨rfl, complaints_of_none (form_enter_of_ne (by simp) w), rfl⟩
  · intro step v hnext
    obtain ⟨hstep, -, rfl⟩ := next_eq_ok_iff.1 hnext
    rw [hnode] at hstep
    cases hstep
    obtain ⟨g, hg, hrestores⟩ :=
      restores_reentered hw.housed hform (show Step.clusterConfig ≠ .nodeConfig by simp)
    exact ⟨_, g, previous_eq_ok_iff.2 ⟨rfl, rfl⟩, hg, hrestores⟩

theorem form_survives_leaving_with_typed_proxy :
    let draft : Deployment :=
      { components := { database := { appName := "demo", zones := [⟨"zone1", [], none⟩] } } }
    let selection : Selection := { selected := [.proxy, .console] }
    let w : Wizard :=
      { step := .nodeConfig
        draft
        selection
        errors := []
        form := some
          { topology := ⟨[⟨.minted 0, "zone1", ["10.0.0.1"], some "10.0.0.1"⟩], 2, 1⟩
            selection
            appName := "demo"
            proxyServers := ["10.9.9.9"]
            consoleServers := ["10.0.0.1"]
            auth := { user := "admin" }
            homePath := some "/data/demo" }
        nextId := 0 }
    Reachable draft selection w ∧ w.step = .nodeConfig ∧ w.complaints = [] ∧
      ∃ f, w.form = some f ∧ w.SurvivesLeaving f := by
  intro draft selection w
  have hrun : [Action.next, .editForm (.setServers (.minted 0) [" 10.0.0.1"]),
      .editForm (.setProxyServers ["10.9.9.9 ", ""]), .editForm (.setUser "admin"),
      .editForm (.setHomePath "/data/demo")].foldlM apply (start draft selection) = some w := by
    decide +kernel
  have hw : Reachable draft selection w := Reachable.start.run hrun
  exact ⟨hw, rfl, by decide +kernel, form_survives_leaving hw rfl⟩

/-- From the cluster step back to the node step and forth again, everything is as it was: the form
built from an accepted draft is valid and writes that draft. The errors shown are cleared, and the
identities that the form gave out are not given out again. -/
theorem cluster_step_returns (hw : Reachable draft selection w) (hstep : w.step = .clusterConfig) :
    ∃ v u, w.previous = (.ok .nodeConfig, v) ∧ v.next = (.ok .clusterConfig, u) ∧
      u.draft = w.draft ∧ u = { w with errors := [], nextId := u.nextId } := by
  have hnone : w.form = none := hw.housed.form_eq_none (by simp [hstep])
  obtain ⟨d, firstId, f, hf, hvalid, hwritten⟩ :=
    hw.gated.written (by simp [hstep, Beyond])
  obtain ⟨hg, hsame⟩ := NodeForm.reloaded_of_valid hf hvalid w.nextId
  rw [← hwritten] at hg hsame
  have hleave : w.leaveForm = w := by simp only [leaveForm, hnone]
  have hform : (w.enter .nodeConfig).form =
      some (NodeForm.ofDeployment w.draft w.selection w.nextId) := by
    rw [form_enter, if_pos rfl, hleave]
  have hcomplaints : (w.enter .nodeConfig).complaints = [] := by
    simp only [complaints, hform, hg]
  have hdraft : (w.enter .nodeConfig).leaveForm.draft = w.draft := by
    rw [draft_leaveForm_of_some hform, draft_enter, hleave, hsame]
  refine ⟨_, _, previous_eq_ok_iff.2 ⟨by rw [hstep]; rfl, rfl⟩,
    next_eq_ok_iff.2 ⟨rfl, hcomplaints, rfl⟩, hdraft, ?_⟩
  rw [enter_of_ne (by simp), selection_enter, hdraft, hstep, hnone]

theorem cluster_step_returns_with_ports :
    let draft : Deployment :=
      { components :=
          { database :=
              { appName := "demo", version := "4.2.2.0", sqlPort := some 2881
                zones := [⟨"zone1", [], none⟩] }
            proxy := some { version := "4.2.3.0", listenPort := some 2883 }
            configServer := some { version := "1.0.0", servers := ["10.0.0.9"] } } }
    let selection : Selection := { selected := [.proxy, .agent] }
    let w : Wizard :=
      { step := .clusterConfig
        draft :=
          { auth := some { user := "admin" }
            components :=
              { database :=
                  { appName := "demo", version := "4.2.2.0", sqlPort := some 2881
                    zones := [⟨"zone1", ["10.0.0.1"], some "10.0.0.1"⟩] }
                proxy := some
                  { version := "4.2.3.0", servers := ["10.0.0.1"], listenPort := some 2883 }
                agent := some { servers := ["10.0.0.1"] } }
            homePath := some "/data/demo/demo" }
        selection
        errors := []
        form := none
        nextId := 1 }
    Reachable draft selection w ∧ w.step = .clusterConfig ∧
      ∃ v u, w.previous = (.ok .nodeConfig, v) ∧ v.next = (.ok .clusterConfig, u) ∧
        u.draft = w.draft ∧ u = { w with errors := [], nextId := u.nextId } := by
  intro draft selection w
  have hrun : [Action.next, .editForm (.setServers (.minted 0) [" 10.0.0.1"]),
      .editForm (.setUser "admin"), .editForm (.setHomePath "/data/demo"),
      .next].foldlM apply (start draft selection) = some w := by
    decide +kernel
  have hw : Reachable draft selection w := Reachable.start.run hrun
  exact ⟨hw, rfl, cluster_step_returns hw rfl⟩

end DeployWizard.Wizard
