import DeployWizard.Service.Client

set_option autoImplicit false

namespace DeployWizard.Service

inductive Call where
  | info
  | create (name : String) (d : Deployment)
  | status (name : String)
  | log (name : String) (offset : UInt64)

namespace Call

def Answer : Call → Type
  | .info => ServiceInfo
  | .create _ _ => Unit
  | .status _ => TaskInfo
  | .log _ _ => LogChunk

def method : Call → Method
  | .info | .status _ | .log _ _ => .get
  | .create _ _ => .post

def path : Call → String
  | .info => "/info"
  | .create name _ => Client.deploymentPath name
  | .status name => Client.installPath name
  | .log name offset => Client.logPath name offset

def body : Call → Option String
  | .info | .status _ | .log _ _ => none
  | .create _ d => some (Payload.ofDeployment d).render

def endpoint (call : Call) : String :=
  call.method.name ++ " " ++ call.path

def asData : (call : Call) → Json.Value → Option call.Answer
  | .info => Payload.asServiceInfo
  | .create _ _ => Payload.asAny
  | .status _ => Payload.asTaskInfo
  | .log _ _ => Payload.asLogChunk

def ofData : (call : Call) → Option call.Answer → Except Error call.Answer
  | .info, data => Client.required "GET /info" (.ok data)
  | .create _ _, _ => .ok ()
  | .status name, data => Client.required (Client.installPath name) (.ok data)
  | .log _ offset, data => .ok (data.getD ⟨"", offset⟩)

def read (call : Call) (text : String) : Except Error call.Answer :=
  (Client.interpret call.endpoint call.asData text).bind call.ofData

end Call

namespace Client

def target? (c : Client) (path : String) : Option String :=
  (Url.parse? (c.endpoint path)).bind Url.target

theorem ofBase_of_scheme {url : String} (h : (Url.parse? url).map (·.scheme) = some "http") :
    ofBase url = .ok ⟨trimSlashes url, defaultRetries⟩ := by
  obtain ⟨u, hu, hscheme⟩ := Option.map_eq_some_iff.1 h
  simp only [ofBase, hu, hscheme]
  rfl

def perform (c : Client) : (call : Call) → Session → Except Error call.Answer × Session
  | .info, s => c.serviceInfo s
  | .create name d, s => c.create name d s
  | .status name, s => c.installStatus name s
  | .log name offset, s => c.installLog name offset s

variable {c : Client} {call : Call} {s : Session} {text : String} {e : Error}

theorem required_eq_bind {α : Type} (endpoint : String) (result : Except Error (Option α)) :
    required endpoint result = result.bind fun data => required endpoint (.ok data) := by
  cases result <;> rfl

theorem map_eq_bind {α β : Type} (f : α → β) (result : Except Error α) :
    result.map f = result.bind fun a => .ok (f a) := by
  cases result <;> rfl

theorem perform_eq :
    c.perform call s =
      ((c.send call.method call.path call.body s).1.bind call.read,
        (c.send call.method call.path call.body s).2) := by
  cases call with
  | info =>
    simp only [perform, serviceInfo, Client.call, Call.method, Call.path, Call.body]
    cases (c.send .get "/info" none s).1 with
    | error e => rfl
    | ok text => exact congrArg (·, _) (required_eq_bind _ _)
  | create name d =>
    simp only [perform, create, Client.call, Call.method, Call.path, Call.body]
    cases (c.send .post (deploymentPath name) (some (Payload.ofDeployment d).render) s).1 with
    | error e => rfl
    | ok text => exact congrArg (·, _) (map_eq_bind _ _)
  | status name =>
    simp only [perform, installStatus, Call.method, Call.path, Call.body]
    cases (c.send .get (installPath name) none s).1 with
    | error e => rfl
    | ok text => exact congrArg (·, _) (required_eq_bind _ _)
  | log name offset =>
    simp only [perform, installLog, Client.call, Call.method, Call.path, Call.body]
    cases (c.send .get (logPath name offset) none s).1 with
    | error e => rfl
    | ok text => exact congrArg (·, _) (map_eq_bind _ _)

theorem interpret_error {α : Type} {endpoint : String} {read : Json.Value → Option α}
    (h : interpret endpoint read text = .error e) :
    (∃ message, e = .refused endpoint message) ∨ ∃ detail, e = .unreadable detail := by
  unfold interpret at h
  split at h
  next => exact .inr ⟨_, (Except.error.inj h).symm⟩
  next =>
    unfold unwrap at h
    split at h
    next => cases h
    next => exact .inl ⟨_, (Except.error.inj h).symm⟩

theorem required_error {α : Type} {endpoint : String} {data : Option α}
    (h : required endpoint (.ok data) = .error e) : ∃ detail, e = .unreadable detail := by
  cases data with
  | none => exact ⟨_, (Except.error.inj h).symm⟩
  | some a => cases h

theorem read_error (h : call.read text = .error e) :
    (∃ message, e = .refused call.endpoint message) ∨ ∃ detail, e = .unreadable detail := by
  unfold Call.read at h
  cases hdata : interpret call.endpoint call.asData text with
  | error e' =>
    rw [hdata] at h
    exact interpret_error (hdata.trans (congrArg _ (Except.error.inj h)))
  | ok data =>
    rw [hdata] at h
    cases call with
    | info => exact .inr (required_error h)
    | create name d => cases h
    | status name => exact .inr (required_error h)
    | log name offset => cases h

end Client

end DeployWizard.Service
