import DeployWizard.Redaction
import DeployWizard.Script
import DeployWizard.Service.Error

set_option autoImplicit false

namespace DeployWizard.Service

inductive Method where
  | get
  | post
  deriving DecidableEq

def Method.name : Method → String
  | .get => "GET"
  | .post => "POST"

structure Request where
  method : Method
  target : String
  body : Option String := none
  deriving DecidableEq

def Request.contentType (r : Request) : Option String :=
  r.body.map fun _ => "application/json"

inductive Reply where
  | answer (status : UInt16) (body : String)
  /-- The connection closes inside the body. -/
  | short (status : UInt16) (body : String)
  | dropped
  | silent
  /-- There is no connection, so the service sees no request. -/
  | refused
  deriving DecidableEq

namespace Reply

/-- Whether a status is an answer. It has three digits; below 200, only a change of protocol is
final. -/
def isFinal (status : UInt16) : Bool :=
  status = 101 || (200 ≤ status && status ≤ 999)

/-- Answers of these statuses end with their head. -/
def isBodiless (status : UInt16) : Bool :=
  status = 101 || status = 204 || status = 304

def judge (status : UInt16) (body : String) : Except Error String :=
  if 400 ≤ status then .error (.http status (Redaction.redact body)) else .ok body

def outcome : Reply → Except Error String
  | .answer status body =>
    if !isFinal status then .error (.network "no final answer")
    else judge status (if isBodiless status then "" else body)
  | .short status _ =>
    if !isFinal status then .error (.network "no final answer")
    else if isBodiless status || 400 ≤ status then judge status ""
    else .error (.network "the answer is incomplete")
  | .dropped => .error (.network "the connection was closed")
  | .silent => .error (.timeout "no answer in time")
  | .refused => .error (.network "no connection")

end Reply

structure Attempt where
  request : Request
  reply : Reply
  deriving DecidableEq

def Attempt.arrived (a : Attempt) : Bool :=
  a.reply ≠ .refused

abbrev Server := Script Reply

def Server.unreachable : Server := ⟨[], .refused⟩

end DeployWizard.Service
