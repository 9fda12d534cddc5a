import Mathlib.Data.List.Basic
import Mathlib.Tactic.Common
import DeployWizard.Proofs.Retries

set_option autoImplicit false

namespace DeployWizard.Service
open Json

def named (names : List String) (ms : List (String × Value)) : List Value :=
  (ms.filter fun m => m.1 ∈ names).map (·.2)

/-- The members of an object that refuses a request: no success, one message or none, and any
data. -/
structure Refuses (ms : List (String × Value)) (data : Option Value) (message : Option String) :
    Prop where
  success : named ["success"] ms = [.bool false]
  data : named ["data"] ms = data.toList
  message :
    match message with
    | some m => named ["errorMessage", "msg"] ms = [.text m]
    | none => named ["errorMessage", "msg"] ms = [] ∨ named ["errorMessage", "msg"] ms = [.null]

/-- Whether the data of an answer can be read; it may be missing or null. -/
def Readable {α : Type} (read : Value → Option α) (data : Option Value) : Prop :=
  ∀ v, data = some v → v = .null ∨ (read v).isSome = true

def Call.Decodes (call : Call) : Option Value → Prop :=
  Readable call.asData

def Client.misread : Error := .unreadable "the answer is not what was asked for"

section Envelope
variable {α : Type} {read : Value → Option α} {ms : List (String × Value)} {data : Option Value}
  {message : Option String}

theorem found_eq_named (slot : Slot) (ms : List (String × Value)) :
    Record.found slot ms = named (slot.name :: slot.aliases) ms := by
  unfold Record.found named
  congr 1
  refine List.filter_congr fun m _ => ?_
  rw [Slot.answers, Bool.eq_iff_iff, Bool.or_eq_true, List.contains_iff_mem, decide_eq_true_eq,
    decide_eq_true_eq, List.mem_cons, eq_comm]

theorem Refuses.fields (h : Refuses ms data message) :
    ∃ text, maybe asText text = some message ∧
      Record.fields [⟨"success", [], false⟩, ⟨"data", [], false⟩, ⟨"errorMessage", ["msg"], true⟩]
        .ignored (.object ms) = some [some (.bool false), data, text] := by
  have hdata : Record.ofMembers
      [⟨"data", [], false⟩, ⟨"errorMessage", ["msg"], true⟩] ms =
        (Record.ofMembers [⟨"errorMessage", ["msg"], true⟩] ms).map (data :: ·) := by
    rw [Record.ofMembers, found_eq_named, h.data]
    cases data <;> rfl
  have hfields : Record.fields
      [⟨"success", [], false⟩, ⟨"data", [], false⟩, ⟨"errorMessage", ["msg"], true⟩]
        .ignored (.object ms) =
      ((Record.ofMembers [⟨"errorMessage", ["msg"], true⟩] ms).map (data :: ·)).map
        (some (.bool false) :: ·) := by
    change Record.ofMembers _ ms = _
    rw [Record.ofMembers, found_eq_named, h.success, hdata]
  have hmessage := h.message
  cases message with
  | some m =>
    refine ⟨some (.text m), rfl, ?_⟩
    rw [hfields, Record.ofMembers, found_eq_named, hmessage]
    rfl
  | none =>
    obtain hnone | hnull := hmessage
    · refine ⟨none, rfl, ?_⟩
      rw [hfields, Record.ofMembers, found_eq_named, hnone]
      rfl
    · refine ⟨some .null, rfl, ?_⟩
      rw [hfields, Record.ofMembers, found_eq_named, hnull]
      rfl

theorem Refuses.envelope (h : Refuses ms data message) :
    Payload.asEnvelope read (.object ms) =
      (maybe read data).map fun d => ⟨false, d, message⟩ := by
  obtain ⟨text, htext, hfields⟩ := h.fields
  rw [Payload.asEnvelope, hfields]
  simp only [htext]
  cases maybe read data <;> rfl

theorem isSome_maybe_iff : (maybe read data).isSome = true ↔ Readable read data := by
  match data with
  | none => simp [maybe, Readable]
  | some .null => simp [maybe, Readable]
  | some (.bool b) => simp [maybe, Readable]
  | some (.number n) => simp [maybe, Readable]
  | some (.text s) => simp [maybe, Readable]
  | some .unreadable => simp [maybe, Readable]
  | some (.array vs) => simp [maybe, Readable]
  | some (.object ms) => simp [maybe, Readable]

theorem interpret_of_refuses (endpoint : String) (read : Value → Option α) {text : String}
    (hread : Json.read? text = some (.object ms))
    (h : Refuses ms data message) :
    (Readable read data → Client.interpret endpoint read text =
        .error (.refused endpoint (message.getD "Unknown error"))) ∧
      (¬Readable read data → Client.interpret endpoint read text = .error Client.misread) := by
  have henvelope : (Json.read? text).bind (Payload.asEnvelope read) =
      (maybe read data).map fun d => ⟨false, d, message⟩ := by
    rw [hread]
    exact h.envelope
  rw [← isSome_maybe_iff, Client.interpret, henvelope]
  cases maybe read data with
  | none => exact ⟨fun h => absurd h (by simp), fun _ => rfl⟩
  | some d => exact ⟨fun _ => rfl, fun h => absurd rfl h⟩

end Envelope

/-- What a call makes of a refusal. -/
theorem Call.read_of_refuses {call : Call} {text : String} {ms : List (String × Value)}
    {data : Option Value} {message : Option String} (hread : Json.read? text = some (.object ms))
    (h : Refuses ms data message) :
    (call.Decodes data →
        call.read text = .error (.refused call.endpoint (message.getD "Unknown error"))) ∧
      (¬call.Decodes data → call.read text = .error Client.misread) := by
  obtain ⟨hreported, hmisread⟩ := interpret_of_refuses call.endpoint call.asData hread h
  constructor
  · intro hdata
    rw [Call.read, hreported hdata]
    rfl
  · intro hdata
    rw [Call.read, hmisread hdata]
    rfl

section Answer
variable {c : Client} {call : Call} {s : Session} {target text : String} {k : Nat}
  {status : UInt16} {ms : List (String × Value)} {data : Option Value} {message : Option String}

theorem Reply.outcome_answer (hfinal : isFinal status = true) (hbody : isBodiless status = false)
    (hlow : status < 400) : (Reply.answer status text).outcome = .ok text := by
  have hjudge : ¬400 ≤ status := UInt16.not_le.2 hlow
  simp [outcome, judge, hfinal, hbody, hjudge]

/-- A call whose first reply that may not pass is an answer gives what that answer says. -/
theorem Client.perform_of_answer (htarget : c.target? call.path = some target)
    (hallowed : k ≤ c.retries.toNat) (hpassing : ∀ i < k, (s.server.get i).MayPass)
    (hanswer : (s.server.get k).outcome = .ok text) : (c.perform call s).1 = call.read text := by
  have hdecided : DecidedAt c.retries.toNat s.server.get k := by
    refine ⟨hallowed, hpassing, fun _ hpass => ?_⟩
    obtain ⟨e, he, -⟩ := hpass
    rw [hanswer] at he
    cases he
  obtain ⟨j, hj⟩ := conducted_of_target htarget s
  obtain rfl : k = j := (hj.decided k).1 hdecided
  rw [hj.result, hanswer]
  rfl

/-- A call whose last reply refuses the request reports the refusal with its message, exactly if
the data beside it is what the call asks for or is missing; else the answer counts as misread. -/
theorem refusal_reported_iff (htarget : c.target? call.path = some target)
    (hallowed : k ≤ c.retries.toNat) (hpassing : ∀ i < k, (s.server.get i).MayPass)
    (hreply : s.server.get k = .answer status text) (hfinal : Reply.isFinal status = true)
    (hbody : Reply.isBodiless status = false) (hlow : status < 400)
    (hread : Json.read? text = some (.object ms)) (hrefuses : Refuses ms data message) :
    ((c.perform call s).1 =
        .error (.refused call.endpoint (message.getD "Unknown error")) ↔ call.Decodes data) ∧
      (¬call.Decodes data → (c.perform call s).1 = .error Client.misread) := by
  have hanswer : (s.server.get k).outcome = .ok text := by
    rw [hreply]
    exact Reply.outcome_answer hfinal hbody hlow
  obtain ⟨hreported, hmisread⟩ := call.read_of_refuses hread hrefuses
  rw [Client.perform_of_answer htarget hallowed hpassing hanswer]
  refine ⟨⟨fun hsame => ?_, hreported⟩, hmisread⟩
  by_contra hdata
  rw [hmisread hdata] at hsame
  cases hsame

end Answer

def takenText : String :=
  "\x7b\"success\":false,\"data\":[1],\"msg\":\"name taken\",\"trace\":null\x7d"

theorem refusal_reported_after_busy_reply :
    let c : Client := ⟨"http://127.0.0.1:8680", 2⟩
    let s : Session := ⟨⟨[.answer 503 "busy", .answer 200 takenText], .answer 500 ""⟩, [], []⟩
    let call : Call := .create "demo" {}
    (∃ ms, Json.read? takenText = some (.object ms) ∧
        Refuses ms (some (.array [.ofNat 1])) (some "name taken")) ∧
      (c.perform call s).1 = .error (.refused "POST /deployments/demo" "name taken") := by
  intro c s call
  let ms : List (String × Value) :=
    [("success", .bool false), ("data", .array [.ofNat 1]), ("msg", .text "name taken"),
      ("trace", .null)]
  have hread : Json.read? takenText = some (.object ms) := by cbv
  have hrefuses : Refuses ms (some (.array [.ofNat 1])) (some "name taken") := ⟨rfl, rfl, rfl⟩
  have htarget : c.target? call.path = some "/api/v1/deployments/demo" := by decide +kernel
  have hpassing : ∀ i < 1, (s.server.get i).MayPass := by
    intro i hi
    obtain rfl : i = 0 := by omega
    exact ⟨.http 503 "busy", by decide +kernel, show 503 ∈ busy by decide⟩
  have hdata : call.Decodes (some (.array [.ofNat 1])) := by
    rintro v ⟨⟩
    exact .inr (by decide +kernel)
  refine ⟨⟨ms, hread, hrefuses⟩, ?_⟩
  exact (refusal_reported_iff htarget (by decide) hpassing rfl (by decide) (by decide) (by decide)
    hread hrefuses).1.2 hdata

def unknownText : String :=
  "\x7b\"success\":false,\"data\":\x7b\x7d,\"msg\":\"no such deployment\"\x7d"

/-- Where a task is asked for, an empty object cannot be read, and the refusal is not reported. -/
theorem refusal_with_empty_data_misread :
    let c : Client := ⟨"http://127.0.0.1:8680", 0⟩
    let s : Session := ⟨⟨[.answer 200 unknownText], .answer 500 ""⟩, [], []⟩
    (∃ ms, Json.read? unknownText = some (.object ms) ∧
        Refuses ms (some (.object [])) (some "no such deployment")) ∧
      (c.perform (.status "demo") s).1 = .error Client.misread ∧
      Client.misread ≠ .refused "GET /deployments/demo/install" "no such deployment" := by
  intro c s
  let ms : List (String × Value) :=
    [("success", .bool false), ("data", .object []), ("msg", .text "no such deployment")]
  have hread : Json.read? unknownText = some (.object ms) := by cbv
  have hrefuses : Refuses ms (some (.object [])) (some "no such deployment") := ⟨rfl, rfl, rfl⟩
  have htarget : c.target? (Call.path (.status "demo")) =
      some "/api/v1/deployments/demo/install" := by decide +kernel
  have hdata : ¬(Call.status "demo").Decodes (some (.object [])) := by
    intro h
    obtain hnull | hread := h _ rfl
    · cases hnull
    · cases hread
  refine ⟨⟨ms, hread, hrefuses⟩, ?_, by simp [Client.misread]⟩
  rw [Client.perform_of_answer htarget (Nat.zero_le _) (by simp) rfl]
  exact (Call.read_of_refuses hread hrefuses).2 hdata

end DeployWizard.Service
