import DeployWizard.Payload.Install

set_option autoImplicit false

namespace DeployWizard.Service
open Json

inductive Error where
  | network (detail : String)
  | timeout (detail : String)
  | http (status : UInt16) (body : String)
  | refused (endpoint message : String)
  | unreadable (detail : String)
  | unwritable (detail : String)
  | invalidConfig (detail : String)
  deriving DecidableEq

namespace Error

/-- Whether the service or the configuration said no, and nothing broke. -/
def isExpected : Error → Bool
  | .refused .. | .invalidConfig _ => true
  | _ => false

def isRetryable : Error → Bool
  | .network _ | .timeout _ => true
  | .http status _ => status = 429 || (502 ≤ status && status ≤ 504)
  | _ => false

def message : Error → String
  | .network detail => "Network error: " ++ detail
  | .timeout detail => "Request timeout: " ++ detail
  | .http status body =>
    if body = "" then "HTTP " ++ toString status.toNat
    else "HTTP " ++ toString status.toNat ++ ": " ++ body
  | .refused endpoint message => "[" ++ endpoint ++ "] " ++ message
  | .unreadable detail => "Parse error: " ++ detail
  | .unwritable detail => "Serialization error: " ++ detail
  | .invalidConfig detail => "Invalid client configuration: " ++ detail

def code : Error → String
  | .network _ => "Network"
  | .timeout _ => "Timeout"
  | .http .. => "Http"
  | .refused .. => "Api"
  | .unreadable _ => "Parse"
  | .unwritable _ => "Serialization"
  | .invalidConfig _ => "InvalidConfig"

def details : Error → List (String × Value)
  | .network d | .timeout d | .unreadable d | .unwritable d | .invalidConfig d =>
    [("detail", .text d)]
  | .http status body => [("status", Payload.ofPort status), ("body", .text body)]
  | .refused endpoint message => [("endpoint", .text endpoint), ("message", .text message)]

def toJson (e : Error) : Value :=
  .object (("code", .text e.code) :: e.details)

def asDetail (make : String → Error) (v : Value) : Option Error :=
  match Record.fields [⟨"detail", [], false⟩] .ignored v with
  | some [detail] => (need asText detail).map make
  | _ => none

def ofCode? (code : String) (v : Value) : Option Error :=
  if code = "Network" then asDetail .network v
  else if code = "Timeout" then asDetail .timeout v
  else if code = "Http" then
    match Record.fields [⟨"status", [], false⟩, ⟨"body", [], false⟩] .ignored v with
    | some [status, body] => do some (.http (← need asPort status) (← need asText body))
    | _ => none
  else if code = "Api" then
    match Record.fields [⟨"endpoint", [], false⟩, ⟨"message", [], false⟩] .ignored v with
    | some [endpoint, message] => do
      some (.refused (← need asText endpoint) (← need asText message))
    | _ => none
  else if code = "Parse" then asDetail .unreadable v
  else if code = "Serialization" then asDetail .unwritable v
  else if code = "InvalidConfig" then asDetail .invalidConfig v
  else none

/-- An error is an object whose code says which other members it has, or an array that begins with
the code. -/
def ofJson? (v : Value) : Option Error :=
  if !v.fits Payload.anyDepth then none
  else
    match v with
    | .object ms =>
      match Record.fields [⟨"code", [], false⟩] .ignored (.object ms) with
      | some [some (.text code)] => ofCode? code (.object ms)
      | _ => none
    | .array (.text code :: vs) => ofCode? code (.array vs)
    | _ => none

end Error

end DeployWizard.Service
