import DeployWizard.CommandLine.Run
import DeployWizard.Proofs.StreamEnd
import DeployWizard.Proofs.Submission

set_option autoImplicit false

namespace DeployWizard

namespace Monitor

theorem Answer.isTerminal_of_ending? {a : Answer TaskInfo} {status : InstallStatus}
    (h : a.ending? = some status) : status.isTerminal = true :=
  (Option.filter_eq_some_iff.1 h).2

theorem StatusPolls.isTerminal_of_status {o : Options} {script : Script (Answer TaskInfo)}
    {last : Option TaskInfo} {time : Nat} {r : StatusRun} (h : StatusPolls o script last time r)
    {status : InstallStatus} (hstatus : r.status = some status) : status.isTerminal = true := by
  -- Only an announcement gives a status, and it announces the answer that ended the task.
  induction h with
  | cancelled => cases hstatus
  | silenced => cases hstatus
  | stopped => cases hstatus
  | announced _ hend _ =>
    cases hstatus
    exact Answer.isTerminal_of_ending? hend
  | again _ _ _ _ ih => exact ih hstatus

theorem status_of_ended_at_once {o : Options} {statuses : Script (Answer TaskInfo)}
    {status : InstallStatus} (hend : statuses.next.1.ending? = some status)
    (hcancel : statuses.next.1.delay + o.finishDelay < o.cancel) :
    (statusSide o statuses).status = some status := by
  have hearly : ¬o.cancel ≤ 0 := by omega
  have hpause : ¬o.cancel ≤ statuses.next.1.delay + o.finishDelay := by omega
  rw [statusSide, followStatus, if_neg hearly]
  simp only [hend, Options.pause, Nat.zero_add, if_neg hpause]

end Monitor

theorem Wizard.finishInstall_of_terminal {w : Wizard} (hstep : w.step = .install)
    {status : InstallStatus} (h : status.isTerminal = true) :
    w.finishInstall status = (.ok .finished, w.enter .finished) := by
  simp [finishInstall, hstep, h]

namespace Command
open Service Monitor CommandLine
variable {file : WizardFile} {c : Client} {s : Session} {w : Wizard} {status : InstallStatus}

theorem resultOf_eq_ok_iff {r : Run} :
    resultOf r = .ok status ↔ r.outcome.status = some status := by
  unfold resultOf
  split
  next h => simp [h]
  next h => simp [h]

theorem isTerminal_of_resultOf {o : Options} {statuses : Script (Answer TaskInfo)}
    {logs : Script (Answer LogChunk)} (h : resultOf (Monitor.run o statuses logs) = .ok status) :
    status.isTerminal = true :=
  (statusSide_polls o statuses).isTerminal_of_status (resultOf_eq_ok_iff.1 h)

theorem installing_of_submit (h : (submit file c s).1.result = .ok w) :
    w.step = .install ∧ w.form = none := by
  obtain ⟨v, -, -, rfl⟩ := submit_eq_ok_iff.1 h
  exact ⟨rfl, rfl⟩

/-- What a deployment comes to after its install ended: the wizard moves on to its last step with
the draft that it has, and the program succeeds if the install did. -/
structure Concludes (w : Wizard) (status : InstallStatus) (result : Except Failure Installed) :
    Prop where
  terminal : status.isTerminal = true
  installing : w.step = .install
  finishes : ∃ v, w.finishInstall status = (.ok .finished, v) ∧ v.step = .finished ∧
    v.draft = w.draft ∧ result = .ok ⟨status, v⟩
  exit : Exit.ofInstall (result.map (·.status)) = .success ↔ status = .successful

theorem concludes (hstep : w.step = .install) (hform : w.form = none)
    (hterminal : status.isTerminal = true) : Concludes w status (conclude w (.ok status)) := by
  have hfinish := Wizard.finishInstall_of_terminal hstep hterminal
  have hresult : conclude w (.ok status) = .ok ⟨status, w.enter .finished⟩ := by
    simp only [conclude, hfinish]
  refine ⟨hterminal, hstep, ⟨w.enter .finished, hfinish, rfl, ?_, hresult⟩, ?_⟩
  · rw [Wizard.draft_enter, Wizard.draft_leaveForm_of_none hform]
  · rw [hresult]
    cases status <;> simp [Exit.ofInstall, Except.map]

theorem deploy_eq_conclude (h : (submit file c s).1.result = .ok w) (feed : Feed) :
    (deploy file c feed s).1.result =
      conclude w (watch c w.draft.name file.service.poll feed (submit file c s).2).1.result := by
  cases hsubmit : submit file c s with
  | mk created t =>
    rw [hsubmit] at h
    have hcreated : created.result = .ok w := h
    simp only [deploy, hsubmit, hcreated]

theorem exit_runDeploy (file : WizardFile) (c : Client) (s : Session) :
    (runDeploy file c s).exit =
      Exit.ofInstall ((deploy file c {} s).1.result.map (·.status)) := by
  rw [runDeploy]

/-- An install that has ended concludes the deployment that was submitted: whatever the monitor gets
to see, it gives the status of an ended task only, and with that the wizard finishes. -/
theorem deploy_concludes (h : (submit file c s).1.result = .ok w) :
    (∀ (o : Options) (statuses : Script (Answer TaskInfo)) (logs : Script (Answer LogChunk))
      (status : InstallStatus), resultOf (Monitor.run o statuses logs) = .ok status →
        Concludes w status (conclude w (.ok status))) ∧
      (∀ (feed : Feed) (status : InstallStatus),
        (watch c w.draft.name file.service.poll feed (submit file c s).2).1.result = .ok status →
          Concludes w status (deploy file c feed s).1.result) ∧
      ∀ status : InstallStatus,
        (watch c w.draft.name file.service.poll {} (submit file c s).2).1.result = .ok status →
          ((runDeploy file c s).exit = .success ↔ status = .successful) := by
  obtain ⟨hstep, hform⟩ := installing_of_submit h
  have hrun (o : Options) (statuses : Script (Answer TaskInfo)) (logs : Script (Answer LogChunk))
      (status : InstallStatus) (hended : resultOf (Monitor.run o statuses logs) = .ok status) :
      Concludes w status (conclude w (.ok status)) :=
    concludes hstep hform (isTerminal_of_resultOf hended)
  have hdeploy (feed : Feed) (status : InstallStatus)
      (hended : (watch c w.draft.name file.service.poll feed (submit file c s).2).1.result =
        .ok status) : Concludes w status (deploy file c feed s).1.result := by
    rw [deploy_eq_conclude h, hended]
    exact hrun _ _ _ status hended
  refine ⟨hrun, hdeploy, fun status hended => ?_⟩
  rw [exit_runDeploy]
  exact (hdeploy {} status hended).exit

def swiftSession : Session :=
  ⟨⟨[.answer 200 "\x7b\"success\":true,\"data\":\x7b\"user\":\"root\"\x7d\x7d",
      .answer 200 "\x7b\"success\":true,\"data\":null\x7d"],
    .answer 200 "\x7b\"success\":true,\"data\":\x7b\"status\":\"SUCCESSFUL\"\x7d\x7d"⟩, [], []⟩

theorem swiftSession_concluded :
    ∃ w, (submit adminFile localClient swiftSession).1.result = .ok w ∧
      Concludes w .successful (deploy adminFile localClient {} swiftSession).1.result ∧
      (runDeploy adminFile localClient swiftSession).exit = .success := by
  have hcreated : (submit adminFile localClient swiftSession).1.result.toBool = true := by
    decide +kernel
  obtain ⟨w, hsubmit⟩ : ∃ w, (submit adminFile localClient swiftSession).1.result = .ok w := by
    cases hresult : (submit adminFile localClient swiftSession).1.result with
    | error e => rw [hresult] at hcreated; cases hcreated
    | ok w => exact ⟨w, rfl⟩
  have hname : w.draft.name = "demo" := by
    obtain ⟨v, hprepared, -, rfl⟩ := submit_eq_ok_iff.1 hsubmit
    rw [(next_of_prepared hprepared).2, name_of_prepared hprepared]
    rfl
  have hserver : (submit adminFile localClient swiftSession).2.server =
      ⟨[], swiftSession.server.after⟩ := by decide +kernel
  have hstatus : statusOf localClient "demo" swiftSession.server.after =
      .ok { status := .successful } := by decide +kernel
  have hended : (watch localClient w.draft.name adminFile.service.poll {}
      (submit adminFile localClient swiftSession).2).1.result = .ok .successful := by
    have hanswers : (submit adminFile localClient swiftSession).2.server.map
        (statusOf localClient w.draft.name) = ⟨[], .ok { status := .successful }⟩ := by
      rw [hserver, hname, Script.map, hstatus]
      rfl
    rw [watch, hanswers]
    exact resultOf_eq_ok_iff.2 (status_of_ended_at_once rfl (by decide))
  obtain ⟨-, hdeploy, hexit⟩ := deploy_concludes hsubmit
  exact ⟨w, hsubmit, hdeploy {} .successful hended, (hexit .successful hended).2 rfl⟩

end Command

end DeployWizard
