import DeployWizard.Proofs.Submission

set_option autoImplicit false

namespace DeployWizard

namespace NodeForm

theorem auth_setServers (f : NodeForm) (id : ZoneId) (entries : List String) :
    (f.setServers id entries).2.auth = f.auth := by
  unfold setServers
  split <;> rfl

theorem auth_removeConfirmed (f : NodeForm) (id : ZoneId) :
    (f.removeConfirmed id).2.auth = f.auth := by
  unfold removeConfirmed
  cases f.topology.removeConfirmed id with
  | mk result t => cases result <;> rfl

end NodeForm

namespace Command
open Service
variable {file : WizardFile} {log : List LogLine} {w : Wizard}

theorem auth_enterZone (z : ZonePlan) (f : NodeForm) : (enterZone z f).2.auth = f.auth := by
  have hassigned : ((f.addNamed z.name).2.setServers (f.addNamed z.name).1 z.servers).2.auth =
      f.auth := NodeForm.auth_setServers _ _ _
  unfold enterZone
  cases z.coordinator with
  | none => exact hassigned
  | some c =>
    rw [← hassigned]
    dsimp only
    split
    next t hchoose => exact (congrArg (·.2.auth) hchoose).symm
    next issue t hchoose => exact (congrArg (·.2.auth) hchoose).symm

theorem auth_enterZones (zones : List ZonePlan) (f : NodeForm) :
    (enterZones zones f).2.auth = f.auth := by
  induction zones generalizing f with
  | nil => rfl
  | cons z zs ih => exact (ih _).trans (auth_enterZone z f)

theorem auth_removals (ids : List ZoneId) (f : NodeForm) :
    (ids.foldl (fun f id => (f.removeConfirmed id).2) f).auth = f.auth := by
  induction ids generalizing f with
  | nil => rfl
  | cons id ids ih => exact (ih _).trans (f.auth_removeConfirmed id)

theorem auth_enterNodes (file : WizardFile) (f : NodeForm) :
    (enterNodes file f).2.auth = f.auth := by
  have hzones : (replaceZones file.zones f).2.auth = f.auth := by
    unfold replaceZones
    split
    next => rfl
    next => exact (auth_removals _ _).trans (auth_enterZones _ _)
  simp only [enterNodes]
  cases listedNodes file.proxy <;> cases listedNodes file.console <;> exact hzones

theorem user_filled_of_empty (h : file.deployment.auth.user = "") :
    (filled file none).2.auth.user = "" := by
  have hnodes : (enterNodes file (NodeForm.ofDeployment file.draft file.selection 0)).2.auth.user =
      "" := by
    rw [auth_enterNodes]
    rfl
  simp only [filled, fillNodeForm, enterLogin, h, if_true]
  cases file.deployment.homePath <;> exact hnodes

/-- A form that passes the check is filled in the same way whatever the service says. -/
theorem filled_eq_of_valid (h : (filled file none).2.validate = []) (info : Option ServiceInfo) :
    filled file info = filled file none := by
  have huser : file.deployment.auth.user ≠ "" := by
    -- The form of a draft has no user, and the service was not asked for one.
    intro hempty
    simp only [NodeForm.validate, List.append_eq_nil_iff] at h
    have hdiagnostics := h.1.1.2
    rw [NodeForm.userDiagnostics, if_pos (user_filled_of_empty hempty)] at hdiagnostics
    cases hdiagnostics
  simp only [filled, fillNodeForm, enterLogin, huser, if_false]

theorem prepare_eq_of_ok (h : prepare file none = (log, .ok w)) (info : Option ServiceInfo) :
    prepare file info = (log, .ok w) := by
  have hvalid := (prepare_eq_ok_iff.1 h).1
  rw [← h]
  simp only [prepare_eq, atReview, filled_eq_of_valid hvalid info]

section Sending
variable {c : Client} {s : Session}

theorem creates_of_mem_submitted (h : (prepare file (environment c s)).2 = .ok w) {a : Attempt}
    (ha : a ∈ submitted file c s) (hpost : a.request.method = .post) :
    a ∈ creation file c s ∧ Creates c w.draft a.request := by
  rw [submitted_eq, List.mem_append] at ha
  obtain hasking | hcreating := ha
  · rw [get_of_mem_sent hasking] at hpost
    cases hpost
  · obtain ⟨v, hprepared, hcreates⟩ := creates_of_mem_creation hcreating
    cases h.symm.trans hprepared
    exact ⟨hcreating, hcreates⟩

theorem post_mem_submitted_iff (h : (prepare file (environment c s)).2 = .ok w) :
    (∃ a ∈ submitted file c s, a.request.method = .post) ↔
      (c.target? (Client.deploymentPath w.draft.name)).isSome := by
  have hcreation : creation file c s ≠ [] ↔
      (c.target? (Client.deploymentPath w.draft.name)).isSome := by
    rw [creation_ne_nil_iff, h]
    simp only [Except.ok.injEq, exists_eq_left']
  rw [← hcreation]
  constructor
  · rintro ⟨a, ha, hpost⟩
    exact List.ne_nil_of_mem (creates_of_mem_submitted h ha hpost).1
  · intro hsome
    obtain ⟨a, ha⟩ := List.exists_mem_of_ne_nil _ hsome
    obtain ⟨v, -, hcreates⟩ := creates_of_mem_creation ha
    refine ⟨a, ?_, hcreates.method⟩
    rw [submitted_eq]
    exact List.mem_append_right _ ha

end Sending

/-- A file that passes the check is prepared for submission in the same way, whatever the service
says: the review that the check prints is that of the submission, which is of the one deployment
that is sent to be created, and that is sent if there is a URL for it. -/
theorem validate_predicts_submit (h : prepare file none = (log, .ok w)) :
    (∀ info, prepare file info = (log, .ok w)) ∧
      (validate file).result = .ok () ∧
      ∀ (c : Client) (s : Session),
        (validate file).printed = (submit file c s).1.printed ++ "Configuration is valid\n" ∧
          (submit file c s).1.printed = printReview w ∧
          (∀ a ∈ submitted file c s, a.request.method = .post → Creates c w.draft a.request) ∧
          ((∃ a ∈ submitted file c s, a.request.method = .post) ↔
            (c.target? (Client.deploymentPath w.draft.name)).isSome) := by
  have hsame := prepare_eq_of_ok h
  have hchecked : validate file = ⟨log, printReview w ++ "Configuration is valid\n", .ok ()⟩ := by
    simp only [validate, h]
  refine ⟨hsame, by rw [hchecked], fun c s => ?_⟩
  have hprepared : (prepare file (environment c s)).2 = .ok w := congrArg Prod.snd (hsame _)
  have hprinted := (submit_of_ok hprepared).2.1
  refine ⟨by rw [hchecked, hprinted], hprinted,
    fun a ha hpost => (creates_of_mem_submitted hprepared ha hpost).2,
    post_mem_submitted_iff hprepared⟩

theorem validate_predicts_submit_of_admin :
    ∃ w, (prepare adminFile none).2 = .ok w ∧ (prepare adminFile (some ⟨"root"⟩)).2 = .ok w ∧
      (submit adminFile localClient alikeSession).1.printed = printReview w ∧
      ∃ a ∈ submitted adminFile localClient alikeSession,
        Creates localClient w.draft a.request := by
  have hvalid : (filled adminFile none).2.validate = [] := by decide +kernel
  obtain ⟨log, w, hprepared⟩ : ∃ log w, prepare adminFile none = (log, .ok w) :=
    ⟨_, _, prepare_eq_ok_iff.2 ⟨hvalid, rfl, rfl⟩⟩
  obtain ⟨hsame, -, hsubmit⟩ := validate_predicts_submit hprepared
  obtain ⟨-, hprinted, hcreates, hsent⟩ := hsubmit localClient alikeSession
  have hname : w.draft.name = "demo" := name_of_prepared (congrArg Prod.snd hprepared)
  have htarget : (localClient.target? (Client.deploymentPath w.draft.name)).isSome := by
    rw [hname]
    decide +kernel
  obtain ⟨a, ha, hpost⟩ := hsent.2 htarget
  exact ⟨w, congrArg Prod.snd hprepared, congrArg Prod.snd (hsame _), hprinted, a, ha,
    hcreates a ha hpost⟩

end Command

end DeployWizard
