import DeployWizard.Service.Reply
import DeployWizard.Url.Basic
import DeployWizard.Json.Reader
import DeployWizard.Json.Writer
import DeployWizard.Payload.Install

set_option autoImplicit false

/-!
The client of the deployer service. A request that may succeed when it is sent again is sent
again, a limited number of times; the answer is unwrapped from its envelope.
-/
namespace DeployWizard.Service
open Json

structure Client where
  /-- Without slashes at its end. -/
  baseUrl : String
  retries : UInt32
  deriving DecidableEq

inductive BaseError where
  | malformed
  | unsupportedScheme (scheme : String)
  deriving DecidableEq

def BaseError.error : BaseError → Error
  | .malformed => .invalidConfig "the base URL cannot be read"
  | .unsupportedScheme scheme => .invalidConfig ("unsupported scheme '" ++ scheme ++ "'")

structure Session where
  server : Server
  attempts : List Attempt := []
  waits : List UInt64 := []
  deriving DecidableEq

def Session.requests (s : Session) : List Request :=
  (s.attempts.filter Attempt.arrived).map (·.request)

/-- The wait after an attempt, counted from 0, in milliseconds: doubled each time, at most ten
seconds. -/
def backoff (attempt : UInt32) : UInt64 :=
  min (100 * ((1 : UInt64) <<< (min attempt 20).toUInt64)) 10000

def unsendable : Error := .network "the request has no URL"

def Session.attempt (s : Session) : Option Request → Except Error String × Session
  | none => (.error unsendable, s)
  | some r =>
    let (reply, server) := s.server.next
    (reply.outcome, { s with server, attempts := s.attempts ++ [⟨r, reply⟩] })

def exhausted : Error := .network "All retries exhausted with no error captured"

/-- Sends a request while attempts are left, again after each error that may pass. The attempts are
counted from 0; `last` is the error of the one before. -/
def Session.sendFrom (r : Option Request) (retries : UInt32) :
    Nat → UInt32 → Option Error → Session → Except Error String × Session
  | 0, _, last, s => (.error (last.getD exhausted), s)
  | left + 1, attempt, _, s =>
    match s.attempt r with
    | (.ok text, s) => (.ok text, s)
    | (.error e, s) =>
      if attempt < retries && e.isRetryable then
        sendFrom r retries left (attempt + 1) (some e)
          { s with waits := s.waits ++ [backoff attempt] }
      else (.error e, s)

def Session.send (s : Session) (r : Option Request) (retries : UInt32) :
    Except Error String × Session :=
  if retries = 0 then s.attempt r else s.sendFrom r retries (retries.toNat + 1) 0 none

namespace Client

def defaultRetries : UInt32 := 2

def trimSlashes (s : String) : String :=
  String.ofList (s.toList.reverse.dropWhile (· = '/')).reverse

def ofBase (url : String) : Except BaseError Client :=
  match Url.parse? url with
  | none => .error .malformed
  | some u =>
    if u.scheme = "http" || u.scheme = "https" then .ok ⟨trimSlashes url, defaultRetries⟩
    else .error (.unsupportedScheme u.scheme)

/-- A copy that sends every request once; who polls comes again anyway. -/
def polling (c : Client) : Client :=
  { c with retries := 0 }

def endpoint (c : Client) (path : String) : String :=
  c.baseUrl ++ "/api/v1" ++ path

def deploymentPath (name : String) : String :=
  "/deployments/" ++
    String.ofList (Text.Percent.encode Text.Percent.isUnreserved name.toList)

def installPath (name : String) : String :=
  deploymentPath name ++ "/install"

def logPath (name : String) (offset : UInt64) : String :=
  installPath name ++ "/log?offset=" ++ toString offset.toNat

/-- Sends a request to a path of the service. Where base and path make no URL there is no request
and nothing to send again; some URLs can be read but not sent to. -/
def send (c : Client) (method : Method) (path : String) (body : Option String) (s : Session) :
    Except Error String × Session :=
  match Url.parse? (c.endpoint path) with
  | none => s.attempt none
  | some u => s.send (u.target.map fun target => ⟨method, target, body⟩) c.retries

def unwrap {α : Type} (endpoint : String) (e : Payload.Envelope α) : Except Error (Option α) :=
  if e.success then .ok e.data
  else .error (.refused endpoint (e.errorMessage.getD "Unknown error"))

def interpret {α : Type} (endpoint : String) (read : Value → Option α) (text : String) :
    Except Error (Option α) :=
  -- The data is read with the envelope, so a refusal with other data is not seen as one.
  match (Json.read? text).bind (Payload.asEnvelope read) with
  | none => .error (.unreadable "the answer is not what was asked for")
  | some e => unwrap endpoint e

def call {α : Type} (c : Client) (method : Method) (path : String) (body : Option String)
    (read : Value → Option α) (s : Session) : Except Error (Option α) × Session :=
  let (result, s) := c.send method path body s
  (result.bind (interpret (method.name ++ " " ++ path) read), s)

def noData (endpoint : String) : Error :=
  .unreadable (endpoint ++ ": response has no data")

def required {α : Type} (endpoint : String) : Except Error (Option α) → Except Error α
  | .error e => .error e
  | .ok none => .error (noData endpoint)
  | .ok (some a) => .ok a

def serviceInfo (c : Client) (s : Session) : Except Error ServiceInfo × Session :=
  let (result, s) := c.call .get "/info" none Payload.asServiceInfo s
  (required "GET /info" result, s)

def create (c : Client) (name : String) (d : Deployment) (s : Session) :
    Except Error Unit × Session :=
  let (result, s) :=
    c.call .post (deploymentPath name) (some (Payload.ofDeployment d).render) Payload.asAny s
  (result.map fun _ => (), s)

def readStatus (name : String) (text : String) : Except Error TaskInfo :=
  required (installPath name)
    (interpret ("GET " ++ installPath name) Payload.asTaskInfo text)

def installStatus (c : Client) (name : String) (s : Session) : Except Error TaskInfo × Session :=
  let (result, s) := c.send .get (installPath name) none s
  (result.bind (readStatus name), s)

/-- The install log from an offset on; an answer without data is an empty piece. -/
def installLog (c : Client) (name : String) (offset : UInt64) (s : Session) :
    Except Error LogChunk × Session :=
  let (result, s) := c.call .get (logPath name offset) none Payload.asLogChunk s
  (result.map fun data => data.getD ⟨"", offset⟩, s)

end Client

end DeployWizard.Service
