import DeployWizard.Proofs.Consistency
import DeployWizard.Proofs.WizardRuns

set_option autoImplicit false

namespace DeployWizard

structure ConsistentPlans (plans : List ZonePlan) : Prop where
  nonempty : plans ≠ []
  names : ∀ p ∈ plans, isZoneName p.name = true
  distinctNames : (plans.map (·.name)).Nodup
  servers : ∀ p ∈ plans, p.servers ≠ []
  addresses : ∀ p ∈ plans, ∀ s ∈ p.servers, isAddress s = true
  distinctServers : (plans.flatMap (·.servers)).Nodup
  coordinators : ∀ p ∈ plans, ∃ c ∈ p.servers, p.coordinator = some c

/-- A draft that can be submitted with the chosen components. -/
structure Submittable (chosen : Selection) (d : Deployment) : Prop where
  zones : ConsistentPlans d.components.database.zones
  proxy : d.components.proxy.isSome ↔ chosen.enabled .proxy
  proxyServers : ∀ p, d.components.proxy = some p →
    p.servers ≠ [] ∧ ∀ s ∈ p.servers, isAddress s = true
  console : d.components.console.isSome ↔ chosen.enabled .console
  consoleServers : ∀ c, d.components.console = some c → ∃ s, c.servers = [s] ∧ isAddress s = true
  agent : d.components.agent.isSome ↔ chosen.enabled .agent
  agentServers : ∀ a, d.components.agent = some a →
    a.servers = d.components.database.zones.flatMap (·.servers)
  configServer : chosen.enabled .configServer = false → d.components.configServer = none
  auth : ∃ a, d.auth = some a ∧ isUserName a.user = true ∧ a.port ≠ 0
  homePath : ∃ path, d.homePath = some (path ++ "/" ++ d.name) ∧ isHomePath path = true

theorem Topology.Consistent.plans {t : Topology} (h : t.Consistent) : ConsistentPlans t.plans where
  nonempty := by simpa [Topology.plans] using h.nonempty
  names := List.forall_mem_map.2 fun z hz => (h.zones z hz).name
  distinctNames := by
    rw [Topology.plans, List.map_map]
    exact h.names
  servers := List.forall_mem_map.2 fun z hz => (h.zones z hz).servers
  addresses := List.forall_mem_map.2 fun z hz => (h.zones z hz).addresses
  distinctServers := by
    rw [Topology.plans, List.flatMap_map]
    exact h.servers
  coordinators := List.forall_mem_map.2 fun z hz => (h.zones z hz).coordinator

theorem NodeList.invalidAddresses_eq_nil_iff {field : Field} {values : List String} :
    invalidAddresses field values = [] ↔ ∀ v ∈ values, isAddress v = true := by
  simp [invalidAddresses, List.filter_eq_nil_iff]

namespace NodeForm
variable {f : NodeForm}

theorem console_of_diagnostics (h : f.consoleDiagnostics = [])
    (henabled : f.selection.enabled .console = true) :
    ∃ s, f.consoleServers = [s] ∧ isAddress s = true := by
  simp only [consoleDiagnostics, henabled, if_true, List.append_eq_nil_iff,
    NodeList.invalidAddresses_eq_nil_iff] at h
  obtain ⟨hcount, haddresses⟩ := h
  match hservers : f.consoleServers with
  | [] => simp [hservers] at hcount
  | [s] => exact ⟨s, rfl, haddresses s (by simp [hservers])⟩
  | _ :: _ :: _ => simp [hservers] at hcount

theorem proxy_of_diagnostics (h : f.proxyDiagnostics = [])
    (henabled : f.selection.enabled .proxy = true) :
    f.proxyServers ≠ [] ∧ ∀ s ∈ f.proxyServers, isAddress s = true := by
  simp only [proxyDiagnostics, henabled, if_true, List.append_eq_nil_iff,
    NodeList.invalidAddresses_eq_nil_iff] at h
  refine ⟨?_, h.2⟩
  intro hnil
  simp [hnil] at h

theorem user_of_diagnostics (h : f.userDiagnostics = []) : isUserName f.auth.user = true := by
  unfold userDiagnostics at h
  split at h
  next => cases h
  next =>
    split at h
    next huser => exact huser
    next => cases h

theorem port_of_diagnostics (h : f.portDiagnostics = []) : f.auth.port ≠ 0 := by
  intro hport
  simp [portDiagnostics, hport] at h

theorem homePath_of_diagnostics (h : f.homePathDiagnostics = []) :
    ∃ path, f.homePath = some path ∧ isHomePath path = true := by
  unfold homePathDiagnostics at h
  split at h
  next => cases h
  next path hpath =>
    split at h
    next hvalid => exact ⟨path, hpath, hvalid⟩
    next => cases h

theorem written_proxy {d : Deployment} {p : Proxy}
    (h : (f.writeInto d).components.proxy = some p) :
    f.selection.enabled .proxy = true ∧ p.servers = f.proxyServers := by
  simp only [writeInto, Option.ite_none_right_eq_some, Option.some.injEq] at h
  obtain ⟨henabled, rfl⟩ := h
  exact ⟨henabled, rfl⟩

theorem written_console {d : Deployment} {c : Console}
    (h : (f.writeInto d).components.console = some c) :
    f.selection.enabled .console = true ∧ c.servers = f.consoleServers := by
  simp only [writeInto, Option.ite_none_right_eq_some, Option.some.injEq] at h
  obtain ⟨henabled, rfl⟩ := h
  exact ⟨henabled, rfl⟩

/-- A form without diagnostics is written into a draft that can be submitted. -/
theorem submittable_writeInto (hf : f.WellFormed) {d : Deployment} (hname : f.appName = d.name)
    (h : f.validate = []) : Submittable f.selection (f.writeInto d) := by
  simp only [validate, List.append_eq_nil_iff] at h
  obtain ⟨⟨⟨⟨⟨htopology, hconsole⟩, hproxy⟩, huser⟩, hport⟩, hhome⟩ := h
  have hconsistent := (Topology.validate_eq_nil_iff hf.identified.distinct).1 htopology
  constructor
  case zones => exact hconsistent.plans
  case proxy => simp [writeInto]
  case proxyServers =>
    intro p hp
    obtain ⟨henabled, hservers⟩ := written_proxy hp
    rw [hservers]
    exact proxy_of_diagnostics hproxy henabled
  case console => simp [writeInto]
  case consoleServers =>
    intro c hc
    obtain ⟨henabled, hservers⟩ := written_console hc
    rw [hservers]
    exact console_of_diagnostics hconsole henabled
  case agent => simp [writeInto]
  case agentServers =>
    intro a ha
    simp only [writeInto, Option.ite_none_right_eq_some, Option.some.injEq] at ha
    obtain ⟨-, rfl⟩ := ha
    simp only [writeInto, Topology.plans, List.flatMap_map]
    rfl
  case configServer =>
    intro hdisabled
    simp [writeInto, hdisabled]
  case auth => exact ⟨f.auth, rfl, user_of_diagnostics huser, port_of_diagnostics hport⟩
  case homePath =>
    obtain ⟨path, hpath, hvalid⟩ := homePath_of_diagnostics hhome
    refine ⟨path, ?_, hvalid⟩
    simp only [writeInto, hpath, hname, Option.map_some]
    rfl

end NodeForm

namespace Wizard

def Beyond (step : Step) : Prop := Step.clusterConfig.number ≤ step.number

theorem beyond_of_next {s t : Step} (h : s.next? = some t) (hnode : s ≠ .nodeConfig)
    (ht : Beyond t) : Beyond s := by
  cases s <;> cases h <;> simp_all [Beyond, Step.number]

theorem eq_checkInfo_of_previous {s t : Step} (h : s.previous? = some t) (ht : Beyond t) :
    s = .checkInfo := by
  cases s <;> cases h <;> simp_all [Beyond, Step.number]

/-- The draft was written by a valid form, for the components chosen now. -/
def Written (chosen : Selection) (written : Deployment) : Prop :=
  ∃ d firstId f, NodeForm.Reachable d chosen firstId f ∧ f.validate = [] ∧ written = f.writeInto d

theorem Written.submittable {chosen : Selection} {d : Deployment} (h : Written chosen d) :
    Submittable chosen d := by
  obtain ⟨before, firstId, f, hf, hvalid, rfl⟩ := h
  rw [← hf.selection_eq]
  exact NodeForm.submittable_writeInto hf.wellFormed hf.appName_eq hvalid

/-- A wizard beyond the node step carries what a valid form wrote. -/
structure Gated (w : Wizard) : Prop where
  housed : w.Housed
  written : Beyond w.step → Written w.selection w.draft

namespace Gated
variable {w w' : Wizard}

theorem passed (hw : w.Gated) (hbeyond : Beyond w.step) : Submittable w.selection w.draft :=
  (hw.written hbeyond).submittable

theorem enter {step : Step} (h : Beyond step → Written w.selection w.leaveForm.draft) :
    (w.enter step).Gated where
  housed := Housed.enter w step
  written := by
    rw [step_enter, selection_enter, draft_enter]
    exact h

theorem leave_unhoused (hw : w.Gated) (hnode : w.step ≠ .nodeConfig) (hbeyond : Beyond w.step) :
    Written w.selection w.leaveForm.draft := by
  rw [draft_leaveForm_of_none (hw.housed.form_eq_none hnode)]
  exact hw.written hbeyond

theorem leave_valid (hw : w.Gated) (hnode : w.step = .nodeConfig) (hvalid : w.complaints = []) :
    Written w.selection w.leaveForm.draft := by
  obtain ⟨f, hform⟩ := Option.isSome_iff_exists.1 (hw.housed.form.2 hnode)
  obtain ⟨firstId, hf⟩ := hw.housed.built f hform
  simp only [complaints, hform] at hvalid
  exact ⟨w.draft, firstId, f, hf, hvalid, draft_leaveForm_of_some hform⟩

theorem of_effect (hw : w.Gated) (eff : Effect w w') : w'.Gated := by
  cases eff with
  | kept => exact hw
  | advanced step hstep hvalid =>
    apply Gated.enter
    intro hbeyond
    by_cases hnode : w.step = .nodeConfig
    · exact hw.leave_valid hnode hvalid
    · -- Beyond the node step the way on starts where the draft was accepted already.
      exact hw.leave_unhoused hnode (beyond_of_next hstep hnode hbeyond)
  | wentBack step hstep =>
    apply Gated.enter
    intro hbeyond
    have hcheck := eq_checkInfo_of_previous hstep hbeyond
    refine hw.leave_unhoused ?_ ?_ <;> simp [hcheck, Beyond, Step.number]
  | finished hstep =>
    apply Gated.enter
    intro _
    refine hw.leave_unhoused ?_ ?_ <;> simp [hstep, Beyond, Step.number]
  | chose selection hstep =>
    refine ⟨hw.housed.of_effect (.chose selection hstep), ?_⟩
    simp [hstep, Beyond, Step.number]
  | edited f g e r hform h =>
    refine ⟨hw.housed.of_effect (.edited f g e r hform h), ?_⟩
    have hnode : w.step = .nodeConfig := hw.housed.form.1 (by simp [hform])
    simp [hnode, Beyond, Step.number]
  | noted errors => exact ⟨hw.housed.of_effect (.noted errors), hw.written⟩

end Gated

theorem Reachable.gated {draft : Deployment} {selection : Selection} {w : Wizard}
    (hw : Reachable draft selection w) : w.Gated := by
  induction hw with
  | start => exact ⟨Reachable.start.housed, by simp [Wizard.start, Beyond, Step.number]⟩
  | step _ h ih => exact ih.of_effect (apply_effect h)

/-- In every run from any draft and selection, the form stands on the node step alone, and a draft
beyond that step can be submitted with the chosen components. -/
theorem reachable_submittable {draft : Deployment} {selection : Selection} {w : Wizard}
    (hw : Reachable draft selection w) :
    (w.form.isSome ↔ w.step = .nodeConfig) ∧
      (Beyond w.step → Submittable w.selection w.draft) :=
  ⟨hw.gated.housed.form, hw.gated.passed⟩

theorem submittable_beyond_entered_zone :
    let draft : Deployment :=
      { components := { database := { appName := "demo", zones := [⟨"zone1", [], none⟩] } } }
    let selection : Selection := { selected := [.proxy, .agent, .console] }
    let w : Wizard :=
      { step := .clusterConfig
        draft :=
          { auth := some { user := "admin" }
            components :=
              { database :=
                  { appName := "demo", zones := [⟨"zone1", ["10.0.0.1"], some "10.0.0.1"⟩] }
                proxy := some { servers := ["10.0.0.1"] }
                agent := some { servers := ["10.0.0.1"] }
                console := some { servers := ["10.0.0.1"] } }
            homePath := some "/home/admin/demo" }
        selection
        errors := []
        form := none
        nextId := 1 }
    Reachable draft selection w ∧ Beyond w.step ∧ Submittable w.selection w.draft := by
  intro draft selection w
  have hrun : [Action.next, .editForm (.setServers (.minted 0) ["10.0.0.1", "nowhere"]), .next,
      .editForm (.setUser " admin"), .next].foldlM apply (start draft selection) = some w := by
    decide +kernel
  have hw : Reachable draft selection w := Reachable.start.run hrun
  have hbeyond : Beyond w.step := le_refl 3
  exact ⟨hw, hbeyond, (reachable_submittable hw).2 hbeyond⟩

end Wizard

end DeployWizard
