import Mathlib.Tactic.Common
import DeployWizard.Command.Submit
import DeployWizard.Proofs.FileReplay
import DeployWizard.Proofs.RequestTargets
import DeployWizard.Proofs.PayloadCodecs

set_option autoImplicit false

namespace DeployWizard.Command
open Service

section Asking
variable (c : Client) (s : Session)

def environment : Option ServiceInfo :=
  (c.serviceInfo s).1.toOption

def afterAsking : Session :=
  (c.serviceInfo s).2

theorem askService_eq : (askService c s).2 = (environment c s, afterAsking c s) := by
  unfold askService environment afterAsking
  cases c.serviceInfo s with
  | mk result t => cases result <;> rfl

end Asking

def submitted (file : WizardFile) (c : Client) (s : Session) : List Attempt :=
  (submit file c s).2.attempts.drop s.attempts.length

structure Creates (c : Client) (d : Deployment) (r : Request) : Prop where
  method : r.method = .post
  target : c.target? (Client.deploymentPath d.name) = some r.target
  body : ∃ text, r.body = some text ∧ (Json.read? text).bind Payload.asDeployment = some d

section Submission
variable {file : WizardFile} {c : Client} {s : Session} {w : Wizard}

theorem submit_of_error {e : Failure} (h : (prepare file (environment c s)).2 = .error e) :
    (submit file c s).1.result = .error e ∧ (submit file c s).2 = afterAsking c s := by
  obtain ⟨log, hlog⟩ : ∃ log, askService c s = (log, environment c s, afterAsking c s) :=
    ⟨_, Prod.ext rfl (askService_eq c s)⟩
  obtain ⟨reports, hprepared⟩ : ∃ reports, prepare file (environment c s) = (reports, .error e) :=
    ⟨_, Prod.ext rfl h⟩
  simp only [submit, hlog, hprepared, and_self]

theorem next_of_prepared {info : Option ServiceInfo} (h : (prepare file info).2 = .ok w) :
    w.next = (.ok .install, w.enter .install) ∧ (w.enter .install).draft = w.draft := by
  obtain ⟨-, hw⟩ := prepared_iff.1 h
  refine ⟨Wizard.next_eq_ok_iff.2 ⟨?_, ?_, rfl⟩, ?_⟩ <;> rw [hw] <;> rfl

theorem submit_of_ok (h : (prepare file (environment c s)).2 = .ok w) :
    (submit file c s).2 = (c.create w.draft.name w.draft (afterAsking c s)).2 ∧
      (submit file c s).1.printed = printReview w ∧
      (submit file c s).1.result =
        match (c.create w.draft.name w.draft (afterAsking c s)).1 with
        | .error e => .error (.notCreated w.draft.name e)
        | .ok () => .ok (w.enter .install) := by
  obtain ⟨log, hlog⟩ : ∃ log, askService c s = (log, environment c s, afterAsking c s) :=
    ⟨_, Prod.ext rfl (askService_eq c s)⟩
  obtain ⟨reports, hprepared⟩ : ∃ reports, prepare file (environment c s) = (reports, .ok w) :=
    ⟨_, Prod.ext rfl h⟩
  obtain ⟨hnext, hdraft⟩ := next_of_prepared h
  have hreview : printReview (w.enter .install) = printReview w := by
    simp only [printReview, Wizard.review, hdraft]
  simp only [submit, hlog, hprepared, hnext]
  cases c.create w.draft.name w.draft (afterAsking c s) with
  | mk result t =>
    cases result with
    | error e => exact ⟨rfl, rfl, rfl⟩
    | ok u => exact ⟨rfl, hreview, rfl⟩

/-- The deployment that a submission asks to create, if there is one. -/
def creation (file : WizardFile) (c : Client) (s : Session) : List Attempt :=
  match (prepare file (environment c s)).2 with
  | .error _ => []
  | .ok w => c.sent (.create w.draft.name w.draft) (afterAsking c s)

theorem submitted_eq (file : WizardFile) (c : Client) (s : Session) :
    submitted file c s = c.sent .info s ++ creation file c s := by
  have hasked : (afterAsking c s).attempts = s.attempts ++ c.sent .info s :=
    c.attempts_perform .info s
  unfold submitted creation
  cases hprepared : (prepare file (environment c s)).2 with
  | error e =>
    rw [(submit_of_error hprepared).2, hasked, List.drop_left, List.append_nil]
  | ok w =>
    have hcreated : (c.create w.draft.name w.draft (afterAsking c s)).2.attempts =
        (afterAsking c s).attempts ++ c.sent (.create w.draft.name w.draft) (afterAsking c s) :=
      c.attempts_perform (.create w.draft.name w.draft) _
    rw [(submit_of_ok hprepared).1, hcreated, hasked, List.append_assoc, List.drop_left]

theorem creates_of_mem_sent {d : Deployment} {t : Session} {a : Attempt}
    (h : a ∈ c.sent (.create d.name d) t) : Creates c d a.request := by
  obtain ⟨target, htarget, hrequest⟩ := Client.request_of_mem_sent h
  rw [hrequest]
  exact ⟨rfl, htarget, _, rfl, Payload.read?_deployment d⟩

theorem get_of_mem_sent {t : Session} {a : Attempt} (h : a ∈ c.sent .info t) :
    a.request.method = .get := by
  obtain ⟨target, -, hrequest⟩ := Client.request_of_mem_sent h
  rw [hrequest]
  rfl

theorem creates_of_mem_creation {a : Attempt} (h : a ∈ creation file c s) :
    ∃ w, (prepare file (environment c s)).2 = .ok w ∧ Creates c w.draft a.request := by
  unfold creation at h
  split at h
  next => cases h
  next w hprepared => exact ⟨w, hprepared, creates_of_mem_sent h⟩

theorem creation_ne_nil_iff :
    creation file c s ≠ [] ↔ ∃ w, (prepare file (environment c s)).2 = .ok w ∧
      (c.target? (Client.deploymentPath w.draft.name)).isSome := by
  unfold creation
  split
  next e hprepared => simp [hprepared]
  next w hprepared =>
    simp only [hprepared, Except.ok.injEq, exists_eq_left']
    exact Client.sent_ne_nil_iff _

theorem submit_eq_ok_iff {v : Wizard} :
    (submit file c s).1.result = .ok v ↔ ∃ w, (prepare file (environment c s)).2 = .ok w ∧
      (c.create w.draft.name w.draft (afterAsking c s)).1 = .ok () ∧ v = w.enter .install := by
  cases hprepared : (prepare file (environment c s)).2 with
  | error e => simp [(submit_of_error hprepared).1]
  | ok w =>
    rw [(submit_of_ok hprepared).2.2]
    cases hcreated : (c.create w.draft.name w.draft (afterAsking c s)).1 with
    | error e => simp [hcreated]
    | ok u => simp [hcreated, eq_comm]

/-- A deployment is sent to be created if the file prepares it and there is a URL to send it to. It
is sent after the service was asked, as it was prepared, and where its name says. The submission
succeeds if the service creates it, and then the wizard stands on the install step with it. -/
theorem only_prepared_submitted (file : WizardFile) (c : Client) (s : Session) :
    let prepared := (prepare file (environment c s)).2
    let result := (submit file c s).1.result
    (∃ gets posts, submitted file c s = gets ++ posts ∧
      (∀ a ∈ gets, a.request.method = .get) ∧
      (∀ a ∈ posts, ∃ w, prepared = .ok w ∧ Creates c w.draft a.request) ∧
      (posts ≠ [] ↔ ∃ w, prepared = .ok w ∧
        (c.target? (Client.deploymentPath w.draft.name)).isSome)) ∧
      ((∃ v, result = .ok v) ↔ ∃ w, prepared = .ok w ∧
        (c.create w.draft.name w.draft (afterAsking c s)).1 = .ok ()) ∧
      (∀ v, result = .ok v → v.step = .install ∧ ∃ w, prepared = .ok w ∧ v.draft = w.draft) ∧
      ∀ e, prepared = .error e →
        result = .error e ∧ ∀ a ∈ submitted file c s, a.request.method ≠ .post := by
  refine ⟨⟨_, _, submitted_eq file c s, fun _ => get_of_mem_sent,
    fun _ => creates_of_mem_creation, creation_ne_nil_iff⟩, ⟨?_, ?_⟩, ?_, ?_⟩
  · rintro ⟨v, hv⟩
    obtain ⟨w, hprepared, hcreated, -⟩ := submit_eq_ok_iff.1 hv
    exact ⟨w, hprepared, hcreated⟩
  · rintro ⟨w, hprepared, hcreated⟩
    exact ⟨_, submit_eq_ok_iff.2 ⟨w, hprepared, hcreated, rfl⟩⟩
  · intro v hv
    obtain ⟨w, hprepared, -, rfl⟩ := submit_eq_ok_iff.1 hv
    exact ⟨rfl, w, hprepared, (next_of_prepared hprepared).2⟩
  · intro e hprepared
    refine ⟨(submit_of_error hprepared).1, fun a ha hpost => ?_⟩
    rw [submitted_eq, creation, hprepared, List.append_nil] at ha
    rw [get_of_mem_sent ha] at hpost
    cases hpost

/-- A file for one server, with a base URL that has a blank after it. -/
def blankFile : WizardFile where
  service := { baseUrl := blankClient.baseUrl }
  deployment := { appName := "demo", auth := { user := "admin" } }
  zones := [{ name := "zone1", servers := ["10.0.0.1"] }]

def adminFile : WizardFile :=
  { blankFile with service := {} }

/-- A file with a plain base URL, for a deployment whose name is longer than a URL may be. -/
def longNameFile : WizardFile where
  deployment :=
    { appName := String.ofList (List.replicate 65535 'a')
      auth := { user := "admin" } }
  zones := [{ name := "zone1", servers := ["10.0.0.1"] }]

theorem prepared_of_valid {info : Option ServiceInfo}
    (hinfo : filled file info = filled file none) (h : (filled file none).2.validate = []) :
    ∃ w, (prepare file info).2 = .ok w ∧ w.draft.name = file.deployment.appName := by
  rw [← hinfo] at h
  have hprepared := prepared_iff.2 ⟨h, rfl⟩
  exact ⟨_, hprepared, name_of_prepared hprepared⟩

theorem get_of_mem_submitted (hprepared : (prepare file (environment c s)).2 = .ok w)
    (h : c.target? (Call.path (.create w.draft.name w.draft)) = none) :
    ∀ a ∈ submitted file c s, a.request.method = .get := by
  have hnothing : creation file c s = [] := by
    rw [creation, hprepared]
    exact Client.sent_of_no_target h _
  rw [submitted_eq, hnothing, List.append_nil]
  exact fun _ => get_of_mem_sent

/-- Two files that are prepared and not submitted, for there is no URL to send the deployment to:
below a base URL with a blank after it there is none, and none is as long as the name. -/
theorem prepared_without_post :
    (Client.ofBase blankFile.service.baseUrl = .ok blankClient ∧
      (∃ w, (prepare blankFile (environment blankClient alikeSession)).2 = .ok w) ∧
      ∀ a ∈ submitted blankFile blankClient alikeSession, a.request.method = .get) ∧
    Client.ofBase longNameFile.service.baseUrl = .ok localClient ∧
      (∃ w, (prepare longNameFile (environment localClient alikeSession)).2 = .ok w) ∧
      ∀ a ∈ submitted longNameFile localClient alikeSession, a.request.method = .get := by
  constructor
  · have hvalid : (filled blankFile none).2.validate = [] := by decide +kernel
    have hinfo (info : Option ServiceInfo) : filled blankFile info = filled blankFile none := rfl
    obtain ⟨w, hprepared, hname⟩ := prepared_of_valid (hinfo _) hvalid
    have htarget : blankClient.target? (Client.deploymentPath "demo") = none := by decide +kernel
    refine ⟨ofBase_blank, ⟨w, hprepared⟩, get_of_mem_submitted hprepared ?_⟩
    rw [Call.path, hname]
    exact htarget
  · have hvalid : (filled longNameFile none).2.validate = [] := by decide +kernel
    have hinfo (info : Option ServiceInfo) :
        filled longNameFile info = filled longNameFile none := rfl
    obtain ⟨w, hprepared, hname⟩ := prepared_of_valid (hinfo _) hvalid
    have hlong : Url.maxLength < w.draft.name.length := by
      rw [hname, longNameFile, String.length_ofList, List.length_replicate]
      decide
    refine ⟨Client.ofBase_of_scheme (by decide +kernel), ⟨w, hprepared⟩,
      get_of_mem_submitted hprepared ?_⟩
    exact Client.target?_of_long_name localClient_baseUrl isHostText_local rfl hlong

end Submission

end DeployWizard.Command
