import DeployWizard.Install
import DeployWizard.Payload.Deployment

set_option autoImplicit false

namespace DeployWizard.Payload
open Json

def ofServiceInfo (i : ServiceInfo) : Value :=
  .object [("user", .text i.user)]

def asServiceInfo (v : Value) : Option ServiceInfo :=
  match Record.fields [⟨"user", [], true⟩] .ignored v with
  | some [user] => do some ⟨← orElse "" asText user⟩
  | _ => none

def ofStatus (s : InstallStatus) : Value :=
  .text s.name

/-- A status is a name; one of the known names may also stand as an object with null. -/
def asStatus : Value → Option InstallStatus
  | .text s => some (.ofName s)
  | .object [(name, .null)] =>
    match InstallStatus.ofName name with
    | .other _ => none
    | s => some s
  | _ => none

def asUInt32 (v : Value) : Option UInt32 :=
  (asNat UInt32.size v).map UInt32.ofNat

def asUInt64 (v : Value) : Option UInt64 :=
  (asNat UInt64.size v).map UInt64.ofNat

def ofTaskStep (s : TaskStep) : Value :=
  .object [("component", .text s.component), ("status", ofStatus s.status),
    ("result", .text s.result)]

def asTaskStep (v : Value) : Option TaskStep :=
  match Record.fields
      [⟨"component", [], true⟩, ⟨"status", [], false⟩, ⟨"result", [], true⟩] .ignored v with
  | some [component, status, result] => do
    some ⟨← orElse "" asText component, ← need asStatus status, ← orElse "" asText result⟩
  | _ => none

def ofTaskInfo (t : TaskInfo) : Value :=
  .object ([("status", ofStatus t.status), ("finished", .ofNat t.finished.toNat),
      ("total", .ofNat t.total.toNat)] ++
    member "current" .text t.current ++ member "msg" .text t.message ++
    [("info", .array (t.steps.map ofTaskStep))])

def asTaskInfo (v : Value) : Option TaskInfo :=
  match Record.fields
      [⟨"status", [], false⟩, ⟨"finished", [], true⟩, ⟨"total", [], true⟩, ⟨"current", [], true⟩,
        ⟨"msg", [], true⟩, ⟨"info", [], true⟩] .ignored v with
  | some [status, finished, total, current, message, steps] => do
    some ⟨← need asStatus status, ← orElse 0 asUInt32 finished, ← orElse 0 asUInt32 total,
      ← maybe asText current, ← maybe asText message, ← orElse [] (asList asTaskStep) steps⟩
  | _ => none

def ofLogChunk (c : LogChunk) : Value :=
  .object [("log", .text c.log), ("offset", .ofNat c.offset.toNat)]

def asLogChunk (v : Value) : Option LogChunk :=
  match Record.fields [⟨"log", [], true⟩, ⟨"offset", [], true⟩] .ignored v with
  | some [log, offset] => do some ⟨← orElse "" asText log, ← orElse 0 asUInt64 offset⟩
  | _ => none

structure Envelope (α : Type) where
  success : Bool
  data : Option α
  errorMessage : Option String
  deriving DecidableEq

def ofEnvelope {α : Type} (write : α → Value) (e : Envelope α) : Value :=
  .object ([("success", .bool e.success),
      ("data", match e.data with
        | none => .null
        | some a => write a)] ++
    member "errorMessage" .text e.errorMessage)

def asEnvelope {α : Type} (read : Value → Option α) (v : Value) : Option (Envelope α) :=
  match Record.fields
      [⟨"success", [], false⟩, ⟨"data", [], false⟩, ⟨"errorMessage", ["msg"], true⟩] .ignored v with
  | some [success, data, errorMessage] => do
    some ⟨← need asBool success, ← maybe read data, ← maybe asText errorMessage⟩
  | _ => none

/-- The number of containers that a value may nest where its content does not matter. -/
def anyDepth : Nat := 127

def asAny (v : Value) : Option Unit :=
  if v.fits (anyDepth - 1) then some () else none

end DeployWizard.Payload
