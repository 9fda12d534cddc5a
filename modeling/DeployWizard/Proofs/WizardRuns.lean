import DeployWizard.Wizard
import DeployWizard.Proofs.FormEdits

set_option autoImplicit false

namespace DeployWizard.Wizard

inductive Action where
  | next
  | previous
  | finishInstall (status : InstallStatus)
  | setSelection (selection : Selection)
  | editForm (edit : NodeForm.Edit)
  | pushError (message : String)
  | clearErrors
  deriving DecidableEq

/-- The wizard after an action, refused or not; none if an edit of the form does not end. Without a
form there is nothing to edit. -/
def apply (w : Wizard) : Action → Option Wizard
  | .next => some w.next.2
  | .previous => some w.previous.2
  | .finishInstall status => some (w.finishInstall status).2
  | .setSelection selection => some (w.setSelection selection).2
  | .editForm edit =>
    match w.form with
    | none => some w
    | some f => (f.apply edit).map fun (_, f) => { w with form := some f }
  | .pushError message => some (w.pushError message)
  | .clearErrors => some w.clearErrors

inductive Effect (w : Wizard) : Wizard → Prop
  | kept : Effect w w
  | advanced (step : Step) (hstep : w.step.next? = some step) (hvalid : w.complaints = []) :
    Effect w (w.enter step)
  | wentBack (step : Step) (hstep : w.step.previous? = some step) : Effect w (w.enter step)
  | finished (hstep : w.step = .install) : Effect w (w.enter .finished)
  | chose (selection : Selection) (hstep : w.step = .deployConfig) : Effect w { w with selection }
  | edited (f g : NodeForm) (e : NodeForm.Edit) (r : Except Issue (List Diagnostic))
    (hform : w.form = some f) (h : f.apply e = some (r, g)) : Effect w { w with form := some g }
  | noted (errors : List String) : Effect w { w with errors }

theorem next_cases (w : Wizard) :
    (∃ step, w.step.next? = some step ∧ w.complaints = [] ∧ w.next = (.ok step, w.enter step)) ∨
      ∃ e, w.next = (.error e, w) := by
  unfold next
  cases hstep : w.step.next? with
  | none => exact Or.inr ⟨_, rfl⟩
  | some step =>
    cases hvalid : w.complaints with
    | nil => exact Or.inl ⟨step, rfl, rfl, rfl⟩
    | cons d ds => exact Or.inr ⟨_, rfl⟩

theorem previous_cases (w : Wizard) :
    (∃ step, w.step.previous? = some step ∧ w.previous = (.ok step, w.enter step)) ∨
      ∃ e, w.previous = (.error e, w) := by
  unfold previous
  cases hstep : w.step.previous? with
  | none => exact Or.inr ⟨_, rfl⟩
  | some step => exact Or.inl ⟨step, rfl, rfl⟩

theorem finishInstall_cases (w : Wizard) (status : InstallStatus) :
    (w.step = .install ∧ w.finishInstall status = (.ok .finished, w.enter .finished)) ∨
      ∃ e, w.finishInstall status = (.error e, w) := by
  unfold finishInstall
  split
  next => exact Or.inr ⟨_, rfl⟩
  next hstep =>
    split
    next => exact Or.inr ⟨_, rfl⟩
    next => exact Or.inl ⟨not_not.1 hstep, rfl⟩

theorem setSelection_cases (w : Wizard) (selection : Selection) :
    (w.step = .deployConfig ∧ w.setSelection selection = (.ok (), { w with selection })) ∨
      ∃ e, w.setSelection selection = (.error e, w) := by
  unfold setSelection
  split
  next hstep => exact Or.inl ⟨hstep, rfl⟩
  next => exact Or.inr ⟨_, rfl⟩

theorem apply_effect {w w' : Wizard} {a : Action} (h : w.apply a = some w') : Effect w w' := by
  cases a with
  | next =>
    simp only [apply, Option.some.injEq] at h
    subst h
    obtain ⟨step, hstep, hvalid, h⟩ | ⟨e, h⟩ := w.next_cases <;> rw [h]
    · exact .advanced step hstep hvalid
    · exact .kept
  | previous =>
    simp only [apply, Option.some.injEq] at h
    subst h
    obtain ⟨step, hstep, h⟩ | ⟨e, h⟩ := w.previous_cases <;> rw [h]
    · exact .wentBack step hstep
    · exact .kept
  | finishInstall status =>
    simp only [apply, Option.some.injEq] at h
    subst h
    obtain ⟨hstep, h⟩ | ⟨e, h⟩ := w.finishInstall_cases status <;> rw [h]
    · exact .finished hstep
    · exact .kept
  | setSelection selection =>
    simp only [apply, Option.some.injEq] at h
    subst h
    obtain ⟨hstep, h⟩ | ⟨e, h⟩ := w.setSelection_cases selection <;> rw [h]
    · exact .chose selection hstep
    · exact .kept
  | editForm edit =>
    simp only [apply] at h
    split at h
    next => cases h; exact .kept
    next f hform =>
      obtain ⟨⟨r, g⟩, hedit, h⟩ := Option.map_eq_some_iff.1 h
      cases h
      exact .edited f g edit r hform hedit
  | pushError message => cases h; exact .noted _
  | clearErrors => cases h; exact .noted _

inductive Reachable (draft : Deployment) (selection : Selection) : Wizard → Prop
  | start : Reachable draft selection (start draft selection)
  | step {w w' : Wizard} {a : Action} (hw : Reachable draft selection w) (h : w.apply a = some w') :
    Reachable draft selection w'

theorem Reachable.run {draft : Deployment} {selection : Selection} {w w' : Wizard}
    (hw : Reachable draft selection w) {actions : List Action}
    (h : actions.foldlM apply w = some w') : Reachable draft selection w' := by
  induction actions generalizing w with
  | nil => cases h; exact hw
  | cons a actions ih =>
    rw [List.foldlM_cons, Option.bind_eq_bind, Option.bind_eq_some_iff] at h
    obtain ⟨next, happly, h⟩ := h
    exact ih (hw.step happly) h

theorem next_eq_ok_iff {w v : Wizard} {step : Step} :
    w.next = (.ok step, v) ↔ w.step.next? = some step ∧ w.complaints = [] ∧ v = w.enter step := by
  constructor
  · intro h
    obtain ⟨_, hstep, hvalid, hnext⟩ | ⟨e, hnext⟩ := w.next_cases
    · cases hnext.symm.trans h
      exact ⟨hstep, hvalid, rfl⟩
    · cases hnext.symm.trans h
  · rintro ⟨hstep, hvalid, rfl⟩
    simp only [next, hstep, hvalid]

theorem previous_eq_ok_iff {w v : Wizard} {step : Step} :
    w.previous = (.ok step, v) ↔ w.step.previous? = some step ∧ v = w.enter step := by
  constructor
  · intro h
    obtain ⟨_, hstep, hprevious⟩ | ⟨e, hprevious⟩ := w.previous_cases
    · cases hprevious.symm.trans h
      exact ⟨hstep, rfl⟩
    · cases hprevious.symm.trans h
  · rintro ⟨hstep, rfl⟩
    simp only [previous, hstep]

theorem draft_leaveForm_of_some {w : Wizard} {f : NodeForm} (h : w.form = some f) :
    w.leaveForm.draft = f.writeInto w.draft := by
  simp only [leaveForm, h]

theorem draft_leaveForm_of_none {w : Wizard} (h : w.form = none) : w.leaveForm.draft = w.draft := by
  simp only [leaveForm, h]

theorem selection_leaveForm (w : Wizard) : w.leaveForm.selection = w.selection := by
  unfold leaveForm
  cases w.form <;> rfl

theorem step_enter (w : Wizard) (step : Step) : (w.enter step).step = step := rfl

theorem draft_enter (w : Wizard) (step : Step) : (w.enter step).draft = w.leaveForm.draft := rfl

theorem selection_enter (w : Wizard) (step : Step) : (w.enter step).selection = w.selection :=
  selection_leaveForm w

theorem form_enter (w : Wizard) (step : Step) :
    (w.enter step).form =
      if step = .nodeConfig then
        some (NodeForm.ofDeployment w.leaveForm.draft w.selection w.leaveForm.nextId)
      else none := by
  rw [← selection_leaveForm]
  rfl

/-- A form stands on the node step only, and was reached from the wizard's draft by edits. -/
structure Housed (w : Wizard) : Prop where
  form : w.form.isSome ↔ w.step = .nodeConfig
  built : ∀ f, w.form = some f → ∃ firstId, NodeForm.Reachable w.draft w.selection firstId f

namespace Housed
variable {w w' : Wizard} {f : NodeForm}

theorem wellFormed (hw : w.Housed) (hform : w.form = some f) : f.WellFormed := by
  obtain ⟨firstId, hf⟩ := hw.built f hform
  exact hf.wellFormed

theorem form_eq_none (hw : w.Housed) (hstep : w.step ≠ .nodeConfig) : w.form = none := by
  have hform := hw.form
  simpa [hstep] using hform

theorem enter (w : Wizard) (step : Step) : (w.enter step).Housed := by
  constructor
  · rw [form_enter, step_enter]
    split
    next hnode => simp [hnode]
    next hnode => simp [hnode]
  · intro f hf
    rw [form_enter] at hf
    split at hf
    next =>
      rw [← Option.some.inj hf, draft_enter, selection_enter]
      exact ⟨w.leaveForm.nextId, .load⟩
    next => cases hf

theorem of_effect (hw : w.Housed) (eff : Effect w w') : w'.Housed := by
  cases eff with
  | kept => exact hw
  | advanced step _ _ => exact enter w step
  | wentBack step _ => exact enter w step
  | finished _ => exact enter w .finished
  | chose selection hstep =>
    have hnone : w.form = none := hw.form_eq_none (by simp [hstep])
    exact ⟨hw.form, by simp [hnone]⟩
  | edited f g e r hform h =>
    have hnode : w.step = .nodeConfig := hw.form.1 (by simp [hform])
    refine ⟨by simp [hnode], ?_⟩
    rintro _ ⟨⟩
    obtain ⟨firstId, hf⟩ := hw.built f hform
    exact ⟨firstId, hf.step h⟩
  | noted errors => exact ⟨hw.form, hw.built⟩

end Housed

theorem Reachable.housed {draft : Deployment} {selection : Selection} {w : Wizard}
    (hw : Reachable draft selection w) : w.Housed := by
  induction hw with
  | start => constructor <;> simp [Wizard.start]
  | step _ h ih => exact ih.of_effect (apply_effect h)

end DeployWizard.Wizard
