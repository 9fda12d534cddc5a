import DeployWizard.Proofs.Gate

set_option autoImplicit false

namespace DeployWizard
open Text

def IsAbsolute (path : String) : Prop := path.toList.head? = some '/'

def HasNoBlanks (s : String) : Prop := ∀ c ∈ s.toList, isBlank c = false

theorem isHomePath_iff (path : String) :
    isHomePath path = true ↔ IsAbsolute path ∧ HasNoBlanks path := by
  have hslash : isBlank '/' = false := by decide
  unfold isHomePath IsAbsolute HasNoBlanks
  split
  next cs hcs => simp [hcs, hslash]
  next hother =>
    refine iff_of_false Bool.false_ne_true fun ⟨hhead, _⟩ => ?_
    obtain ⟨cs, hcs⟩ := List.head?_eq_some_iff.1 hhead
    exact hother cs hcs

theorem hasNoBlanks_append (s t : String) :
    HasNoBlanks (s ++ t) ↔ HasNoBlanks s ∧ HasNoBlanks t := by
  simp only [HasNoBlanks, String.toList_append, List.forall_mem_append]

theorem IsAbsolute.append {path : String} (h : IsAbsolute path) (rest : String) :
    IsAbsolute (path ++ rest) := by
  unfold IsAbsolute at h ⊢
  rw [String.toList_append, List.head?_append, h, Option.some_or]

theorem isHomePath_append_iff {path : String} (h : isHomePath path = true) (name : String) :
    isHomePath (path ++ "/" ++ name) = true ↔ HasNoBlanks name := by
  obtain ⟨habsolute, hblanks⟩ := (isHomePath_iff path).1 h
  have hslash : HasNoBlanks "/" := ((isHomePath_iff "/").1 (by decide +kernel)).2
  rw [isHomePath_iff, hasNoBlanks_append, hasNoBlanks_append]
  simp only [(habsolute.append "/").append name, hblanks, hslash, true_and]

namespace NodeForm
variable {d : Deployment} {chosen : Selection} {firstId : Nat} {f : NodeForm}

/-- A form without diagnostics writes an absolute home path, whatever draft it is written into, and
that path is one that the form would accept iff the name of the deployment has no blanks. -/
theorem written_homePath_accepted_iff (hf : Reachable d chosen firstId f) (hvalid : f.validate = [])
    (target : Deployment) :
    ∃ path, (f.writeInto target).homePath = some path ∧ IsAbsolute path ∧
      (isHomePath path = true ↔ HasNoBlanks d.name) := by
  simp only [validate, List.append_eq_nil_iff] at hvalid
  obtain ⟨base, hbase, haccepted⟩ := homePath_of_diagnostics hvalid.2
  have habsolute := ((isHomePath_iff base).1 haccepted).1
  refine ⟨base ++ "/" ++ d.name, ?_, (habsolute.append "/").append d.name,
    isHomePath_append_iff haccepted d.name⟩
  simp only [writeInto, hbase, hf.appName_eq, Option.map_some]

theorem written_homePath_accepted_of_user :
    let d : Deployment :=
      { components :=
          { database :=
              { appName := "demo", zones := [⟨"zone1", ["10.0.0.1"], some "10.0.0.1"⟩] } } }
    let f := (ofDeployment d {} 0).setUser " admin"
    Reachable d {} 0 f ∧ f.validate = [] ∧
      ∃ path, (f.writeInto {}).homePath = some path ∧ IsAbsolute path ∧
        (isHomePath path = true ↔ HasNoBlanks d.name) := by
  intro d f
  have hf : Reachable d {} 0 f := .step (e := .setUser " admin") .load rfl
  have hvalid : f.validate = [] := by decide +kernel
  exact ⟨hf, hvalid, written_homePath_accepted_iff hf hvalid {}⟩

/-- A deployment may have a name with a blank, and the home path then gets it. -/
theorem written_homePath_with_blank :
    let d : Deployment :=
      { components :=
          { database :=
              { appName := "my ob", zones := [⟨"zone1", ["10.0.0.1"], some "10.0.0.1"⟩] } } }
    let f := (ofDeployment d {} 0).setUser "admin"
    Reachable d {} 0 f ∧ f.validate = [] ∧
      (f.writeInto d).homePath = some "/home/admin/my ob" ∧
      isHomePath "/home/admin/my ob" = false := by
  intro d f
  have hf : Reachable d {} 0 f := .step (e := .setUser "admin") .load rfl
  exact ⟨hf, by decide +kernel, by decide +kernel, by decide +kernel⟩

end NodeForm

end DeployWizard
