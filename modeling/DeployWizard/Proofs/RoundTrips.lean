import Mathlib.Tactic.Common
import DeployWizard.Payload.Install
import DeployWizard.Service.Error
import DeployWizard.Proofs.PayloadCodecs

set_option autoImplicit false

namespace DeployWizard

namespace InstallStatus

def Proper : InstallStatus → Prop
  | .other name => name ≠ "RUNNING" ∧ name ≠ "SUCCESSFUL" ∧ name ≠ "FAILED"
  | _ => True

instance : DecidablePred Proper
  | .other name =>
    inferInstanceAs (Decidable (name ≠ "RUNNING" ∧ name ≠ "SUCCESSFUL" ∧ name ≠ "FAILED"))
  | .running | .successful | .failed => isTrue trivial

theorem proper_ofName (name : String) : (ofName name).Proper := by
  unfold ofName
  split_ifs with hrunning hsuccessful hfailed
  · trivial
  · trivial
  · trivial
  · exact ⟨hrunning, hsuccessful, hfailed⟩

theorem ofName_name {s : InstallStatus} (h : s.Proper) : ofName s.name = s := by
  cases s with
  | running => rfl
  | successful => rfl
  | failed => rfl
  | other name => rw [InstallStatus.name, ofName, if_neg h.1, if_neg h.2.1, if_neg h.2.2]

end InstallStatus

theorem Json.Number.isFinite_ofNat {n : Nat} (h : n < 10 ^ 5) :
    (Json.Number.ofNat n).isFinite = true := by
  have hlength : (Text.decimal n).length ≤ 5 :=
    (Nat.length_toDigits_le_iff (by decide) (by decide)).2 h
  have hsize : ((Text.decimal n).length : Int) ≤ 300 := by omega
  simp [isFinite, ofNat, hsize]

namespace Service.Error
open Json

theorem fits_toJson (e : Error) : e.toJson.fits Payload.anyDepth = true := by
  have hports (p : UInt16) : (Number.ofNat p.toNat).isFinite = true :=
    Number.isFinite_ofNat (p.toNat_lt.trans (by decide))
  cases e <;>
    simp [toJson, details, Value.fits, Value.fitsMembers, Payload.anyDepth, Payload.ofPort,
      Value.ofNat, hports]

theorem error_codec : Codec toJson ofJson? where
  reads e := by
    unfold ofJson?
    rw [fits_toJson]
    cases e <;>
      simp [toJson, code, details, Record.fields, Record.fieldsIn, Record.ofMembers, Record.found,
        Slot.answers, ofCode?, asDetail, need, asText, Payload.port_codec.reads]
  plain e := by
    have hdetails : ∀ m ∈ e.details, Plain m.2 := by
      cases e <;> simp [details, Plain.text, Payload.port_codec.plain]
    exact .object (List.forall_mem_cons.2 ⟨.text _, hdetails⟩)
  notNull _ h := by cases h

end Service.Error

namespace Payload
open Json

structure Format (α : Type) where
  write : α → Value
  read : Value → Option α
  statuses : α → List InstallStatus := fun _ => []

theorem uint32_reads (n : UInt32) : asUInt32 (.ofNat n.toNat) = some n := by
  rw [asUInt32, asNat_ofNat n.toNat_lt, Option.map_some, UInt32.ofNat_toNat]

theorem uint64_reads (n : UInt64) : asUInt64 (.ofNat n.toNat) = some n := by
  rw [asUInt64, asNat_ofNat n.toNat_lt, Option.map_some, UInt64.ofNat_toNat]

namespace Format

def encode {α : Type} (f : Format α) (a : α) : String :=
  (f.write a).render

def decode? {α : Type} (f : Format α) (text : String) : Option α :=
  (Json.read? text).bind f.read

def Proper {α : Type} (f : Format α) (a : α) : Prop :=
  ∀ s ∈ f.statuses a, s.Proper

instance {α : Type} (f : Format α) (a : α) : Decidable (f.Proper a) :=
  inferInstanceAs (Decidable (∀ s ∈ f.statuses a, s.Proper))

/-- What is written of a proper value reads back, and all that is ever read is proper. -/
structure RoundTrips {α : Type} (f : Format α) : Prop where
  decode_encode : ∀ a, f.Proper a → f.decode? (f.encode a) = some a
  proper_of_decode : ∀ text a, f.decode? text = some a → f.Proper a

def serviceInfo : Format ServiceInfo where
  write := ofServiceInfo
  read := asServiceInfo

def status : Format InstallStatus where
  write := ofStatus
  read := asStatus
  statuses := fun s => [s]

def taskStep : Format TaskStep where
  write := ofTaskStep
  read := asTaskStep
  statuses := fun s => [s.status]

def taskInfo : Format TaskInfo where
  write := ofTaskInfo
  read := asTaskInfo
  statuses := fun t => t.status :: t.steps.map (·.status)

def logChunk : Format LogChunk where
  write := ofLogChunk
  read := asLogChunk

def deployment : Format Deployment where
  write := ofDeployment
  read := asDeployment

def selection : Format Selection where
  write := ofSelection
  read := asSelection

def error : Format Service.Error where
  write := Service.Error.toJson
  read := Service.Error.ofJson?

def envelope {α : Type} (f : Format α) : Format (Envelope α) where
  write := ofEnvelope f.write
  read := asEnvelope f.read
  statuses := fun e => e.data.toList.flatMap f.statuses

structure Lawful {α : Type} (f : Format α) : Prop where
  reads : ∀ a, f.Proper a → f.read (f.write a) = some a
  plain : ∀ a, Plain (f.write a)
  notNull : ∀ a, f.write a ≠ .null
  proper : ∀ v a, f.read v = some a → f.Proper a

variable {α : Type} {f : Format α}

theorem Lawful.roundTrips (h : f.Lawful) : f.RoundTrips where
  decode_encode a ha := by
    rw [decode?, encode, read?_render (h.plain a), Option.bind_some, h.reads a ha]
  proper_of_decode text a ha := by
    obtain ⟨v, -, hv⟩ := Option.bind_eq_some_iff.1 ha
    exact h.proper v a hv

theorem lawful_of_codec {write : α → Value} {read : Value → Option α} (h : Codec write read) :
    (⟨write, read, fun _ => []⟩ : Format α).Lawful where
  reads a _ := h.reads a
  plain := h.plain
  notNull := h.notNull
  proper _ _ _ _ hs := by cases hs

theorem status_lawful : status.Lawful where
  reads s hs := congrArg some (InstallStatus.ofName_name (hs s List.mem_cons_self))
  plain s := .text s.name
  notNull _ h := by cases h
  proper v s hv := by
    have hproper : s.Proper := by
      change asStatus v = some s at hv
      unfold asStatus at hv
      split at hv
      next name =>
        rw [← Option.some.inj hv]
        exact InstallStatus.proper_ofName name
      next name =>
        split at hv
        next => cases hv
        next known _ =>
          rw [← Option.some.inj hv]
          exact InstallStatus.proper_ofName name
      next => cases hv
    intro other hother
    rwa [List.mem_singleton.1 hother]

theorem taskStep_lawful : taskStep.Lawful where
  reads s hs := by
    have hstatus : asStatus (ofStatus s.status) = some s.status :=
      status_lawful.reads s.status fun other hother => hs other hother
    change asTaskStep (.object (Record.present [("component", some (.text s.component)),
      ("status", some (ofStatus s.status)), ("result", some (.text s.result))])) = some s
    rw [asTaskStep, Record.fields_present rfl (by decide)]
    simp [need, orElse, hstatus, Codec.text.reads]
  plain s := by
    refine .object ?_
    simp only [List.forall_mem_cons]
    exact ⟨.text _, .text _, .text _, List.forall_mem_nil _⟩
  notNull _ h := by cases h
  proper v s hv := by
    change asTaskStep v = some s at hv
    unfold asTaskStep at hv
    split at hv
    next component status result _ =>
      obtain ⟨_, -, hv⟩ := Option.bind_eq_some_iff.1 hv
      obtain ⟨read, hread, hv⟩ := Option.bind_eq_some_iff.1 hv
      obtain ⟨_, -, hv⟩ := Option.bind_eq_some_iff.1 hv
      obtain ⟨w, -, hw⟩ := Option.bind_eq_some_iff.1 hread
      rw [← Option.some.inj hv]
      exact status_lawful.proper w read hw
    next => cases hv

theorem exists_read_of_mem_asList {r : Value → Option α} {v : Value} {as : List α}
    (h : asList r v = some as) : ∀ a ∈ as, ∃ w, r w = some a := by
  unfold asList at h
  split at h
  next vs =>
    induction vs generalizing as with
    | nil =>
      obtain rfl : [] = as := Option.some.inj h
      simp
    | cons w vs ih =>
      rw [List.mapM_cons] at h
      obtain ⟨b, hb, h⟩ := Option.bind_eq_some_iff.1 h
      obtain ⟨bs, hbs, h⟩ := Option.bind_eq_some_iff.1 h
      obtain rfl : b :: bs = as := Option.some.inj h
      exact List.forall_mem_cons.2 ⟨⟨w, hb⟩, ih hbs⟩
  next => cases h

theorem serviceInfo_codec : Codec ofServiceInfo asServiceInfo := by
  refine .record (fun i => [("user", some (.text i.user))]) (fun _ => rfl) (fun i => ?_) fun i => ?_
  · simp only [List.forall_mem_cons]
    exact ⟨Codec.text.plainEntry _ _, List.forall_mem_nil _⟩
  · rw [asServiceInfo, Record.fields_present rfl (by decide)]
    rfl

theorem logChunk_codec : Codec ofLogChunk asLogChunk := by
  refine .record (fun c => [("log", some (.text c.log)), ("offset", some (.ofNat c.offset.toNat))])
    (fun _ => rfl) (fun c => ?_) fun c => ?_
  · simp only [List.forall_mem_cons]
    exact ⟨Codec.text.plainEntry _ _, Codec.plainEntry_some (.natural _) _, List.forall_mem_nil _⟩
  · rw [asLogChunk, Record.fields_present rfl (by decide)]
    simp [orElse, Codec.text.reads, uint64_reads]

theorem component_codec : Codec ofComponent asComponent where
  reads c := Component.ofKey?_key c
  plain c := .text c.key
  notNull _ h := by cases h

theorem selection_codec : Codec ofSelection asSelection := by
  refine .record (fun s => [("selected", some (.array (s.selected.map ofComponent))),
    ("low_version", some (.bool s.lowVersion))]) (fun _ => rfl) (fun s => ?_) fun s => ?_
  · simp only [List.forall_mem_cons]
    exact ⟨component_codec.list.plainEntry _ _, Codec.plainEntry_some (.bool _) _,
      List.forall_mem_nil _⟩
  · rw [asSelection, Record.fields_present rfl (by decide)]
    simp [orElse, asBool, component_codec.list.reads]

theorem exists_read_of_maybe {r : Value → Option α} {v : Option Value} {a : α}
    (h : maybe r v = some (some a)) : ∃ w, r w = some a := by
  unfold maybe at h
  split at h
  · cases h
  · cases h
  · obtain ⟨b, hb, hsame⟩ := Option.map_eq_some_iff.1 h
    exact ⟨_, Option.some.inj hsame ▸ hb⟩

def taskEntries (t : TaskInfo) : List (String × Option Value) :=
  [("status", some (ofStatus t.status)), ("finished", some (.ofNat t.finished.toNat)),
    ("total", some (.ofNat t.total.toNat)), ("current", t.current.map .text),
    ("msg", t.message.map .text), ("info", some (.array (t.steps.map ofTaskStep)))]

theorem ofTaskInfo_eq (t : TaskInfo) : ofTaskInfo t = .object (Record.present (taskEntries t)) := by
  obtain ⟨status, finished, total, current, message, steps⟩ := t
  cases current <;> cases message <;> rfl

theorem taskInfo_lawful : taskInfo.Lawful where
  reads t ht := by
    have hstatus : asStatus (ofStatus t.status) = some t.status :=
      status_lawful.reads t.status fun s hs =>
        ht s (List.mem_singleton.1 hs ▸ List.mem_cons_self)
    have hsteps : asList asTaskStep (.array (t.steps.map ofTaskStep)) = some t.steps :=
      asList_map fun step hstep => taskStep_lawful.reads step fun s hs =>
        ht s (List.mem_cons_of_mem _ (List.mem_singleton.1 hs ▸ List.mem_map_of_mem hstep))
    change asTaskInfo (ofTaskInfo t) = some t
    rw [ofTaskInfo_eq, asTaskInfo, Record.fields_present rfl (by decide)]
    simp [taskEntries, need, orElse, hstatus, hsteps, uint32_reads, Codec.text.maybe_map]
  plain t := by
    have hsteps : Plain (.array (t.steps.map ofTaskStep)) := .array fun v hv => by
      obtain ⟨step, -, rfl⟩ := List.mem_map.1 hv
      exact taskStep_lawful.plain step
    change Plain (ofTaskInfo t)
    rw [ofTaskInfo_eq]
    refine Codec.plain_present ?_
    simp only [taskEntries, List.forall_mem_cons]
    exact ⟨Codec.plainEntry_some (.text _) _, Codec.plainEntry_some (.natural _) _,
      Codec.plainEntry_some (.natural _) _, Codec.text.plainEntry_map _ _,
      Codec.text.plainEntry_map _ _, Codec.plainEntry_some hsteps _, List.forall_mem_nil _⟩
  notNull _ h := by cases h
  proper v t hv := by
    change asTaskInfo v = some t at hv
    unfold asTaskInfo at hv
    split at hv
    next status finished total current message steps _ =>
      obtain ⟨s, hs, hv⟩ := Option.bind_eq_some_iff.1 hv
      obtain ⟨_, -, hv⟩ := Option.bind_eq_some_iff.1 hv
      obtain ⟨_, -, hv⟩ := Option.bind_eq_some_iff.1 hv
      obtain ⟨_, -, hv⟩ := Option.bind_eq_some_iff.1 hv
      obtain ⟨_, -, hv⟩ := Option.bind_eq_some_iff.1 hv
      obtain ⟨read, hread, hv⟩ := Option.bind_eq_some_iff.1 hv
      obtain ⟨w, -, hw⟩ := Option.bind_eq_some_iff.1 hs
      rw [← Option.some.inj hv]
      refine List.forall_mem_cons.2 ⟨status_lawful.proper w s hw s List.mem_cons_self, ?_⟩
      intro other hother
      obtain ⟨step, hstep, rfl⟩ := List.mem_map.1 hother
      cases steps with
      | none =>
        obtain rfl : [] = read := Option.some.inj hread
        cases hstep
      | some items =>
        obtain ⟨item, hitem⟩ := exists_read_of_mem_asList hread step hstep
        exact taskStep_lawful.proper item step hitem step.status List.mem_cons_self
    next => cases hv

def envelopeEntries (write : α → Value) (e : Envelope α) : List (String × Option Value) :=
  [("success", some (.bool e.success)), ("data", some ((e.data.map write).getD .null)),
    ("errorMessage", e.errorMessage.map .text)]

theorem ofEnvelope_eq (write : α → Value) (e : Envelope α) :
    ofEnvelope write e = .object (Record.present (envelopeEntries write e)) := by
  obtain ⟨success, data, errorMessage⟩ := e
  cases data <;> cases errorMessage <;> rfl

theorem Lawful.envelope (h : f.Lawful) : f.envelope.Lawful where
  reads e he := by
    have hdata : maybe f.read (some ((e.data.map f.write).getD .null)) = some e.data := by
      cases hd : e.data with
      | none => rfl
      | some a =>
        have ha : f.Proper a := fun s hs =>
          he s (List.mem_flatMap.2 ⟨a, Option.mem_toList.2 hd, hs⟩)
        rw [Option.map_some, Option.getD_some, maybe_of_ne_null (h.notNull a), h.reads a ha,
          Option.map_some]
    change asEnvelope f.read (ofEnvelope f.write e) = some e
    rw [ofEnvelope_eq, asEnvelope, Record.fields_present rfl (by decide)]
    simp [envelopeEntries, need, asBool, hdata, Codec.text.maybe_map]
  plain e := by
    have hdata : Plain ((e.data.map f.write).getD .null) := by
      cases e.data with
      | none => exact .null
      | some a => exact h.plain a
    change Plain (ofEnvelope f.write e)
    rw [ofEnvelope_eq]
    refine Codec.plain_present ?_
    simp only [envelopeEntries, List.forall_mem_cons]
    exact ⟨Codec.plainEntry_some (.bool _) _, Codec.plainEntry_some hdata _,
      Codec.text.plainEntry_map _ _, List.forall_mem_nil _⟩
  notNull _ h := by cases h
  proper v e hv := by
    change asEnvelope f.read v = some e at hv
    unfold asEnvelope at hv
    split at hv
    next success data errorMessage _ =>
      obtain ⟨_, -, hv⟩ := Option.bind_eq_some_iff.1 hv
      obtain ⟨read, hread, hv⟩ := Option.bind_eq_some_iff.1 hv
      obtain ⟨_, -, hv⟩ := Option.bind_eq_some_iff.1 hv
      rw [← Option.some.inj hv]
      intro s hs
      obtain ⟨a, ha, hin⟩ := List.mem_flatMap.1 hs
      obtain rfl : read = some a := Option.mem_toList.1 ha
      obtain ⟨w, hw⟩ := exists_read_of_maybe hread
      exact h.proper w a hw s hin
    next => cases hv

/-- Every kind of payload goes round: a proper value is read back from its text, and no text is
read as a value that is not proper. -/
theorem payloads_round_trip :
    deployment.RoundTrips ∧ taskInfo.RoundTrips ∧ logChunk.RoundTrips ∧ serviceInfo.RoundTrips ∧
      selection.RoundTrips ∧ serviceInfo.envelope.RoundTrips ∧ taskInfo.envelope.RoundTrips ∧
      logChunk.envelope.RoundTrips ∧ error.RoundTrips := by
  have hdeployment : deployment.Lawful := lawful_of_codec deployment_codec
  have hlog : logChunk.Lawful := lawful_of_codec logChunk_codec
  have hinfo : serviceInfo.Lawful := lawful_of_codec serviceInfo_codec
  have hselection : selection.Lawful := lawful_of_codec selection_codec
  have herror : error.Lawful := lawful_of_codec Service.Error.error_codec
  exact ⟨hdeployment.roundTrips, taskInfo_lawful.roundTrips, hlog.roundTrips, hinfo.roundTrips,
    hselection.roundTrips, hinfo.envelope.roundTrips, taskInfo_lawful.envelope.roundTrips,
    hlog.envelope.roundTrips, herror.roundTrips⟩

def strangeTask : TaskInfo :=
  ⟨.other "PAUSED \"now\"\n", 4294967295, 0, some "", none, [⟨"", .other "", "\\u0041"⟩]⟩

theorem strangeTask_round_trips :
    taskInfo.Proper strangeTask ∧
      taskInfo.decode? (taskInfo.encode strangeTask) = some strangeTask := by
  have hproper : taskInfo.Proper strangeTask := by decide +kernel
  exact ⟨hproper, payloads_round_trip.2.1.1 strangeTask hproper⟩

end Format

end Payload

end DeployWizard
