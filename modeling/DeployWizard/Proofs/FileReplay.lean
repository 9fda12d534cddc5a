import DeployWizard.Command.Prepare
import DeployWizard.Proofs.WizardRuns

set_option autoImplicit false

/-!
A wizard file is replayed by edits of the node form, so a filled form is one that an operator could
have entered, and what a file prepares is what its valid form writes.
-/
namespace DeployWizard.Command

section Filling
variable {d : Deployment} {chosen : Selection} {firstId : Nat} {f : NodeForm}

theorem reachable_enterZone (hf : NodeForm.Reachable d chosen firstId f) (z : ZonePlan) :
    NodeForm.Reachable d chosen firstId (enterZone z f).2 := by
  have hadded : NodeForm.Reachable d chosen firstId (f.addNamed z.name).2 :=
    hf.step (e := .add (some z.name)) rfl
  unfold enterZone
  cases hadd : f.addNamed z.name with
  | mk id added =>
    rw [hadd] at hadded
    have hassigned : NodeForm.Reachable d chosen firstId (added.setServers id z.servers).2 :=
      hadded.step (e := .setServers id z.servers) rfl
    cases hset : added.setServers id z.servers with
    | mk result assigned =>
      rw [hset] at hassigned
      simp only [hset]
      cases z.coordinator with
      | none => exact hassigned
      | some c =>
        have hcoordinated : NodeForm.Reachable d chosen firstId (assigned.setCoordinator id c).2 :=
          hassigned.step (e := .setCoordinator id c) rfl
        cases hchoose : assigned.setCoordinator id c with
        | mk choice coordinated =>
          rw [hchoose] at hcoordinated
          simp only [hchoose]
          cases choice <;> exact hcoordinated

theorem reachable_enterZones (hf : NodeForm.Reachable d chosen firstId f) (zones : List ZonePlan) :
    NodeForm.Reachable d chosen firstId (enterZones zones f).2 := by
  induction zones generalizing f with
  | nil => exact hf
  | cons z zs ih => exact ih (reachable_enterZone hf z)

theorem reachable_removals (hf : NodeForm.Reachable d chosen firstId f) (ids : List ZoneId) :
    NodeForm.Reachable d chosen firstId (ids.foldl (fun f id => (f.removeConfirmed id).2) f) := by
  induction ids generalizing f with
  | nil => exact hf
  | cons id ids ih => exact ih (hf.step (e := .removeConfirmed id) rfl)

theorem reachable_replaceZones (hf : NodeForm.Reachable d chosen firstId f)
    (zones : List ZonePlan) : NodeForm.Reachable d chosen firstId (replaceZones zones f).2 := by
  unfold replaceZones
  split
  next => exact hf
  next => exact reachable_removals (reachable_enterZones hf zones) _

theorem reachable_enterUser (hf : NodeForm.Reachable d chosen firstId f) (user : String)
    (info : Option ServiceInfo) :
    NodeForm.Reachable d chosen firstId
      (if user = "" then
        match info with
        | some info => f.applyServiceInfo info
        | none => f
      else f.setUser user) := by
  split
  next =>
    cases info with
    | none => exact hf
    | some info => exact hf.step (e := .applyServiceInfo info) rfl
  next => exact hf.step (e := .setUser user) rfl

theorem reachable_enterLogin (hf : NodeForm.Reachable d chosen firstId f)
    (s : DeploymentSettings) (info : Option ServiceInfo) :
    NodeForm.Reachable d chosen firstId (enterLogin s info f) := by
  have huser := reachable_enterUser hf s.auth.user info
  have hpassword := huser.step (e := .setPassword s.auth.password) rfl
  have hport := hpassword.step (e := .setPort s.auth.port) rfl
  simp only [enterLogin]
  cases s.homePath with
  | none => exact hport
  | some path => exact hport.step (e := .setHomePath path) rfl

theorem reachable_enterListed (hf : NodeForm.Reachable d chosen firstId f)
    {enter : List String → List Diagnostic × NodeForm}
    (henter : ∀ servers, NodeForm.Reachable d chosen firstId (enter servers).2)
    (listed : Option (List String)) :
    NodeForm.Reachable d chosen firstId
      (match listed with
        | some servers => enter servers
        | none => ([], f)).2 := by
  cases listed with
  | none => exact hf
  | some servers => exact henter servers

theorem reachable_enterNodes (hf : NodeForm.Reachable d chosen firstId f) (file : WizardFile) :
    NodeForm.Reachable d chosen firstId (enterNodes file f).2 := by
  have hzones := reachable_replaceZones hf file.zones
  have hproxy := reachable_enterListed hzones
    (fun servers => hzones.step (e := .setProxyServers servers) rfl) (listedNodes file.proxy)
  exact reachable_enterListed hproxy
    (fun servers => hproxy.step (e := .setConsoleServers servers) rfl) (listedNodes file.console)

theorem reachable_fillNodeForm (hf : NodeForm.Reachable d chosen firstId f) (file : WizardFile)
    (info : Option ServiceInfo) :
    NodeForm.Reachable d chosen firstId (fillNodeForm file info f).2 :=
  reachable_enterLogin (reachable_enterNodes hf file) file.deployment info

end Filling

def filled (file : WizardFile) (info : Option ServiceInfo) : List Diagnostic × NodeForm :=
  fillNodeForm file info (NodeForm.ofDeployment file.draft file.selection 0)

theorem reachable_filled (file : WizardFile) (info : Option ServiceInfo) :
    NodeForm.Reachable file.draft file.selection 0 (filled file info).2 :=
  reachable_fillNodeForm .load file info

def atReview (file : WizardFile) (info : Option ServiceInfo) : Wizard where
  step := .checkInfo
  draft := (filled file info).2.writeInto file.draft
  selection := file.selection
  errors := []
  form := none
  nextId := (filled file info).2.topology.nextId

/-- What a file comes to, read off the form filled from it: the wizard at the review if the form is
valid, or else the diagnostics of the form. -/
theorem prepare_eq (file : WizardFile) (info : Option ServiceInfo) :
    prepare file info =
      match (filled file info).2.validate with
      | [] =>
        (lines .warn (filled file info).1, .ok (atReview file info))
      | d :: ds =>
        (lines .warn (filled file info).1 ++ lines .error (d :: ds),
          .error (.invalidFields (d :: ds).length)) := by
  have hstart : (Wizard.start file.draft file.selection).next =
      (.ok .nodeConfig,
        { step := .nodeConfig
          draft := file.draft
          selection := file.selection
          errors := []
          form := some (NodeForm.ofDeployment file.draft file.selection 0)
          nextId := 0 }) := rfl
  simp only [prepare, hstart, fillWizard]
  rw [← filled]
  generalize hv : Wizard.mk .nodeConfig file.draft file.selection []
    (some (filled file info).2) 0 = v
  have hcomplaints : v.complaints = (filled file info).2.validate := by rw [← hv]; rfl
  cases hvalid : (filled file info).2.validate with
  | nil =>
    have hnext : v.next = (.ok .clusterConfig, v.enter .clusterConfig) := by
      rw [Wizard.next_eq_ok_iff, hcomplaints, hvalid, ← hv]
      exact ⟨rfl, rfl, rfl⟩
    have hagain : (v.enter .clusterConfig).next =
        (.ok .checkInfo, (v.enter .clusterConfig).enter .checkInfo) :=
      Wizard.next_eq_ok_iff.2 ⟨rfl, rfl, rfl⟩
    simp only [hnext, hagain]
    rw [← hv]
    rfl
  | cons d ds =>
    have hnext : v.next = (.error (.formInvalid (d :: ds)), v) := by
      simp only [Wizard.next, hcomplaints, hvalid]
      rw [← hv]
      rfl
    simp only [hnext]

theorem prepare_eq_ok_iff {file : WizardFile} {info : Option ServiceInfo} {log : List LogLine}
    {w : Wizard} :
    prepare file info = (log, .ok w) ↔
      (filled file info).2.validate = [] ∧ log = lines .warn (filled file info).1 ∧
        w = atReview file info := by
  rw [prepare_eq]
  cases (filled file info).2.validate with
  | nil =>
    simp only [Prod.mk.injEq, Except.ok.injEq, true_and, eq_comm (b := log), eq_comm (b := w)]
  | cons d ds => simp

theorem prepared_iff {file : WizardFile} {info : Option ServiceInfo} {w : Wizard} :
    (prepare file info).2 = .ok w ↔
      (filled file info).2.validate = [] ∧ w = atReview file info := by
  constructor
  · intro h
    obtain ⟨hvalid, -, hw⟩ := prepare_eq_ok_iff.1 (Prod.ext rfl h)
    exact ⟨hvalid, hw⟩
  · rintro ⟨hvalid, hw⟩
    exact congrArg Prod.snd (prepare_eq_ok_iff.2 ⟨hvalid, rfl, hw⟩)

theorem name_of_prepared {file : WizardFile} {info : Option ServiceInfo} {w : Wizard}
    (h : (prepare file info).2 = .ok w) : w.draft.name = file.deployment.appName := by
  rw [(prepared_iff.1 h).2]
  rfl

end DeployWizard.Command
