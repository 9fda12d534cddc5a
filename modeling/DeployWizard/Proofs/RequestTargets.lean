import Mathlib.Tactic.Common
import DeployWizard.Proofs.Retries
import DeployWizard.Proofs.UrlTargets

set_option autoImplicit false

namespace DeployWizard

namespace Service
open Text

namespace Call

def name? : Call → Option String
  | .info => none
  | .create name _ | .status name | .log name _ => some name

def below : Call → String
  | .info | .create _ _ => ""
  | .status _ => "/install"
  | .log _ offset => "/install/log?offset=" ++ toString offset.toNat

@[simp] theorem below_create (name : String) (d : Deployment) : (create name d).below = "" := rfl

@[simp] theorem below_status (name : String) : (status name).below = "/install" := rfl

@[simp] theorem below_log (name : String) (offset : UInt64) :
    (log name offset).below = "/install/log?offset=" ++ toString offset.toNat := rfl

def segments (name : String) (call : Call) : List (List Char) :=
  ["api".toList, "v1".toList, "deployments".toList,
      Percent.encode Percent.isUnreserved name.toList] ++
    match call with
    | .info | .create _ _ => []
    | .status _ => ["install".toList]
    | .log _ _ => ["install".toList, "log".toList]

def query : Call → List Char
  | .info | .create _ _ | .status _ => []
  | .log _ offset => '?' :: ("offset=".toList ++ decimal offset.toNat)

variable {call : Call} {name : String}

def fixedSegments : List (List Char) :=
  ["api".toList, "v1".toList, "deployments".toList, "install".toList, "log".toList]

theorem mem_segments {t : List Char} (h : t ∈ call.segments name) :
    t = Percent.encode Percent.isUnreserved name.toList ∨ t ∈ fixedSegments := by
  obtain h | h := List.mem_append.1 h
  · simp only [List.mem_cons, List.not_mem_nil, or_false] at h
    obtain rfl | rfl | rfl | rfl := h
    · exact .inr (by decide)
    · exact .inr (by decide)
    · exact .inr (by decide)
    · exact .inl rfl
  · refine .inr ?_
    cases call with
    | info => cases h
    | create name d => cases h
    | status name =>
      rw [List.mem_singleton.1 h]
      decide
    | log name offset =>
      simp only [List.mem_cons, List.not_mem_nil, or_false] at h
      obtain rfl | rfl := h <;> decide

theorem isSegment_of_mem : ∀ t ∈ call.segments name, Url.IsSegment t := by
  have hfixed : ∀ t ∈ fixedSegments, Url.IsSegment t := by decide
  intro t ht
  obtain rfl | ht := mem_segments ht
  · exact Url.isSegment_encode _
  · exact hfixed t ht

theorem isQuery_query : Url.IsQuery call.query := by
  cases call with
  | info => exact .inl rfl
  | create name d => exact .inl rfl
  | status name => exact .inl rfl
  | log name offset =>
    refine .inr ⟨_, rfl, fun c hc => ?_⟩
    obtain hc | hc := List.mem_append.1 hc
    · have hfixed : "offset=".toList.all Url.keptInQuery = true := by decide
      exact List.all_eq_true.1 hfixed c hc
    · exact Url.keptInQuery_of_isDigit (Nat.isDigit_of_mem_toDigits (by decide) (by decide) hc)

end Call

namespace Client
variable {c : Client} {host : String}

theorem endpoint_toList (hbase : c.baseUrl = "http://" ++ host) {call : Call} {name : String}
    (hname : call.name? = some name) :
    (c.endpoint call.path).toList =
      Url.below host.toList ("api".toList ++
        ((call.segments name).tail.flatMap ('/' :: ·) ++ call.query)) := by
  cases call with
  | info => cases hname
  | create name d =>
    obtain rfl := Option.some.inj hname
    simp [endpoint, hbase, Call.path, deploymentPath, Call.segments, Url.below, Call.query]
  | status name =>
    obtain rfl := Option.some.inj hname
    simp [endpoint, hbase, Call.path, deploymentPath, installPath, Call.segments, Url.below,
      Call.query]
  | log name offset =>
    obtain rfl := Option.some.inj hname
    simp [endpoint, hbase, Call.path, deploymentPath, installPath, logPath, Call.segments,
      Url.below, Call.query, decimal]

theorem target_eq (hbase : c.baseUrl = "http://" ++ host) (hhost : Url.IsHostText host.toList)
    {call : Call} {name target : String} (hname : call.name? = some name)
    (htarget : c.target? call.path = some target) :
    target = String.ofList
      ((Url.resolve [] (call.segments name)).flatMap ('/' :: ·) ++ call.query) := by
  obtain ⟨u, hu, hsent⟩ := Option.bind_eq_some_iff.1 htarget
  have htext : c.endpoint call.path = String.ofList (Url.below host.toList ("api".toList ++
      (call.segments name).tail.flatMap ('/' :: ·) ++ call.query)) := by
    rw [List.append_assoc, ← endpoint_toList hbase hname, String.ofList_toList]
  rw [htext] at hu
  exact Url.target_of_segments hhost Call.isSegment_of_mem Call.isQuery_query hu hsent

end Client

def dots : List String := [".", ".."]

/-- A target names a deployment if one segment of its path decodes to the name. -/
def Addresses (name below target : String) : Prop :=
  ∃ segment : List Char,
    target = "/api/v1/deployments/" ++ String.ofList segment ++ below ∧
      (∀ c ∈ segment, c ≠ '/' ∧ c ≠ '?' ∧ c ≠ '#') ∧
      Percent.textOf? (Percent.decode segment) = some name.toList

def strayTarget (name below : String) : String :=
  (if name = "." then "/api/v1/deployments" else "/api/v1") ++ if below = "" then "/" else below

def pathOf (target : String) : List Char :=
  target.toList.takeWhile (· ≠ '?')

variable {call : Call} {name target below : String}

theorem mem_dots : name ∈ dots ↔ name = "." ∨ name = ".." := by
  rw [dots, List.mem_pair]

theorem plain_encode (h : name ∉ dots) :
    Url.isDot (Percent.encode Percent.isUnreserved name.toList) = false ∧
      Url.isDoubleDot (Percent.encode Percent.isUnreserved name.toList) = false := by
  have hread : Percent.textOf?
      (Percent.decode (Percent.encode Percent.isUnreserved name.toList)) = some name.toList :=
    Percent.textOf?_decode_encode rfl _
  have hname {cs : List Char} (hcs : some cs = some name.toList) (hdots : String.ofList cs ∈ dots) :
      False := by
    rw [Option.some.inj hcs, String.ofList_toList] at hdots
    exact h hdots
  constructor
  · refine Bool.eq_false_iff.2 fun hdot => ?_
    rw [Url.decode_of_isDot hdot] at hread
    exact hname ((Percent.textOf?_utf8 ['.']).symm.trans hread) (by decide)
  · refine Bool.eq_false_iff.2 fun hdot => ?_
    rw [Url.decode_of_isDoubleDot hdot] at hread
    exact hname ((Percent.textOf?_utf8 ['.', '.']).symm.trans hread) (by decide)

theorem resolve_segments (h : name ∉ dots) :
    Url.resolve [] (call.segments name) = call.segments name := by
  refine Url.resolve_eq (List.cons_ne_nil _ _) Call.isSegment_of_mem (fun t ht => ?_) []
  have hfixed : ∀ t ∈ Call.fixedSegments, Url.isDot t = false ∧ Url.isDoubleDot t = false := by
    decide
  obtain rfl | ht := Call.mem_segments ht
  · exact plain_encode h
  · exact hfixed t ht

theorem segments_joined (hname : call.name? = some name) :
    String.ofList ((call.segments name).flatMap ('/' :: ·) ++ call.query) =
      "/api/v1/deployments/" ++
        String.ofList (Percent.encode Percent.isUnreserved name.toList) ++ call.below := by
  rw [← String.toList_inj]
  cases call with
  | info => cases hname
  | create name d => simp [Call.segments, Call.query]
  | status name => simp [Call.segments, Call.query]
  | log name offset => simp [Call.segments, Call.query, decimal]

theorem addresses_segments (hname : call.name? = some name) :
    Addresses name call.below
      (String.ofList ((call.segments name).flatMap ('/' :: ·) ++ call.query)) := by
  refine ⟨Percent.encode Percent.isUnreserved name.toList, segments_joined hname, fun c hc => ?_,
    Percent.textOf?_decode_encode rfl _⟩
  obtain ⟨hkept, hslash, -⟩ := Url.isSegment_encode name.toList c hc
  exact ⟨hslash, (Url.keptInPath_ne hkept).2, (Url.keptInPath_ne hkept).1⟩

theorem stray_segments (hname : call.name? = some name) (h : name ∈ dots) :
    String.ofList ((Url.resolve [] (call.segments name)).flatMap ('/' :: ·) ++ call.query) =
      strayTarget name call.below := by
  cases call with
  | info => cases hname
  | create name d => obtain rfl | rfl := mem_dots.1 h <;> rfl
  | status name => obtain rfl | rfl := mem_dots.1 h <;> rfl
  | log name offset =>
    have hbelow : (Call.log name offset).below ≠ "" := by simp
    rw [strayTarget, if_neg hbelow, ← String.toList_inj]
    obtain rfl | rfl := mem_dots.1 h
    · change (String.ofList ("/api/v1/deployments/install/log".toList ++ Call.query _)).toList = _
      simp [Call.query, decimal]
    · change (String.ofList ("/api/v1/install/log".toList ++ Call.query _)).toList = _
      simp [Call.query, decimal]

/-- A target that names a deployment is too long to be the one for dots. -/
theorem not_addresses_stray (h : name ∈ dots) : ¬Addresses name below (strayTarget name below) := by
  rintro ⟨segment, htarget, -, hread⟩
  have hname : name.toList ≠ [] := by
    obtain rfl | rfl := mem_dots.1 h <;> decide
  have hsegment : segment ≠ [] := by
    rintro rfl
    exact hname (Option.some.inj (hread.symm.trans (Percent.textOf?_utf8 [])))
  have hlength := congrArg String.length htarget
  have hpositive := List.length_pos_iff.2 hsegment
  simp only [strayTarget, String.length_append, String.length_ofList] at hlength
  have h1 : "/api/v1/deployments/".length = 20 := rfl
  have h2 : "/api/v1/deployments".length = 19 := rfl
  have h3 : "/api/v1".length = 7 := rfl
  have h4 : "/".length = 1 := rfl
  split at hlength <;> split at hlength <;> omega

def segmentOf (path : List Char) : List Char :=
  (path.drop "/api/v1/deployments/".length).takeWhile (· ≠ '/')

theorem Addresses.read_path (h : Addresses name call.below target) :
    Percent.textOf? (Percent.decode (segmentOf (pathOf target))) = some name.toList := by
  obtain ⟨segment, rfl, hsegment, hread⟩ := h
  have hprefix : ∀ c ∈ "/api/v1/deployments/".toList, decide (c ≠ '?') = true :=
    List.all_eq_true.1 (by decide)
  have hmark : ∀ c ∈ segment, decide (c ≠ '?') = true := fun c hc =>
    decide_eq_true (hsegment c hc).2.1
  have hslash : ∀ c ∈ segment, decide (c ≠ '/') = true := fun c hc =>
    decide_eq_true (hsegment c hc).1
  have hrest : (call.below.toList.takeWhile (· ≠ '?')).takeWhile (· ≠ '/') = [] := by
    cases call with
    | info => rfl
    | create name d => rfl
    | status name => simp
    | log name offset => simp
  have hpath : pathOf ("/api/v1/deployments/" ++ String.ofList segment ++ call.below) =
      "/api/v1/deployments/".toList ++ (segment ++ call.below.toList.takeWhile (· ≠ '?')) := by
    rw [pathOf, String.toList_append, String.toList_append, String.toList_ofList (l := segment),
      List.append_assoc, List.takeWhile_append_of_pos hprefix, List.takeWhile_append_of_pos hmark]
  have hdrop (cs : List Char) :
      ("/api/v1/deployments/".toList ++ cs).drop "/api/v1/deployments/".length = cs := rfl
  rw [hpath, segmentOf, hdrop, List.takeWhile_append_of_pos hslash, hrest, List.append_nil, hread]

theorem name_eq_of_pathOf {call' : Call} {name' target' : String}
    (h : Addresses name call.below target) (h' : Addresses name' call'.below target')
    (hpath : pathOf target = pathOf target') : name = name' := by
  have hsame : some name.toList = some name'.toList := by
    rw [← h.read_path, ← h'.read_path, hpath]
  exact String.toList_inj.1 (Option.some.inj hsame)

section Targets
variable {c : Client} {host : String}

theorem Client.addresses_of_target (hbase : c.baseUrl = "http://" ++ host)
    (hhost : Url.IsHostText host.toList) (hname : call.name? = some name) (hdots : name ∉ dots)
    (htarget : c.target? call.path = some target) : Addresses name call.below target := by
  rw [target_eq hbase hhost hname htarget, resolve_segments hdots]
  exact addresses_segments hname

theorem Client.stray_of_target (hbase : c.baseUrl = "http://" ++ host)
    (hhost : Url.IsHostText host.toList) (hname : call.name? = some name) (hdots : name ∈ dots)
    (htarget : c.target? call.path = some target) : target = strayTarget name call.below := by
  rw [target_eq hbase hhost hname htarget, stray_segments hname hdots]

theorem Client.target?_of_long_name (hbase : c.baseUrl = "http://" ++ host)
    (hhost : Url.IsHostText host.toList) (hname : call.name? = some name)
    (hlong : Url.maxLength < name.length) : c.target? call.path = none := by
  refine Option.eq_none_iff_forall_ne_some.2 fun target htarget => ?_
  have hdots : name ∉ dots := by
    intro h
    obtain rfl | rfl := mem_dots.1 h <;> exact absurd hlong (by decide)
  obtain ⟨u, hu, hsent⟩ := Option.bind_eq_some_iff.1 htarget
  have hlimit := Url.length_le_of_target hu hsent
  rw [target_eq hbase hhost hname htarget, resolve_segments hdots, segments_joined hname,
    String.length_append, String.length_append] at hlimit
  have hencoded : name.length ≤
      (String.ofList (Percent.encode Percent.isUnreserved name.toList)).length := by
    rw [String.length_ofList, ← String.length_toList]
    exact Percent.length_le_encode _ _
  omega

/-- The requests of a call name its deployment, except where the name is dots: they go elsewhere. -/
theorem requests_address_deployment_iff (hbase : c.baseUrl = "http://" ++ host)
    (hhost : Url.IsHostText host.toList) :
    (∀ call name s, call.name? = some name → ∀ a ∈ c.sent call s,
      (Addresses name call.below a.request.target ↔ name ∉ dots) ∧
        (name ∈ dots → a.request.target = strayTarget name call.below)) ∧
      ∀ call call' name name' s s', call.name? = some name → call'.name? = some name' →
        name ∉ dots → name' ∉ dots → name ≠ name' →
        ∀ a ∈ c.sent call s, ∀ a' ∈ c.sent call' s',
          pathOf a.request.target ≠ pathOf a'.request.target := by
  refine ⟨fun call name s hname a ha => ⟨⟨fun h hdots => ?_, fun hdots => ?_⟩, fun hdots => ?_⟩, ?_⟩
  · have hstray := Client.stray_of_target hbase hhost hname hdots (Client.target?_of_mem_sent ha)
    exact not_addresses_stray hdots (hstray ▸ h)
  · exact Client.addresses_of_target hbase hhost hname hdots (Client.target?_of_mem_sent ha)
  · exact Client.stray_of_target hbase hhost hname hdots (Client.target?_of_mem_sent ha)
  · intro call call' name name' s s' hname hname' hdots hdots' hne a ha a' ha' hpath
    have h := Client.addresses_of_target hbase hhost hname hdots (Client.target?_of_mem_sent ha)
    have h' := Client.addresses_of_target hbase hhost hname' hdots' (Client.target?_of_mem_sent ha')
    exact hne (name_eq_of_pathOf h h' hpath)

end Targets

def localClient : Client := ⟨"http://127.0.0.1:8680", Client.defaultRetries⟩

theorem localClient_baseUrl : localClient.baseUrl = "http://" ++ "127.0.0.1:8680" := rfl

theorem isHostText_local : Url.IsHostText "127.0.0.1:8680".toList :=
  Url.isHostText_of_any (by decide) (by decide)

def alikeSession : Session := ⟨⟨[], .answer 200 ""⟩, [], []⟩

theorem name_with_slash_addressed :
    ∃ a ∈ localClient.sent (.log "a/b" 7) alikeSession,
      a.request.target = "/api/v1/deployments/a%2Fb/install/log?offset=7" ∧
        Addresses "a/b" (Call.below (.log "a/b" 7)) a.request.target ∧
          ∃ a' ∈ localClient.sent (.create "a" {}) alikeSession,
            pathOf a.request.target ≠ pathOf a'.request.target := by
  obtain ⟨haddress, hdistinct⟩ :=
    requests_address_deployment_iff localClient_baseUrl isHostText_local
  have hlog : localClient.target? (Call.path (.log "a/b" 7)) =
      some "/api/v1/deployments/a%2Fb/install/log?offset=7" := by
    decide +kernel
  have hcreate : localClient.target? (Call.path (.create "a" {})) =
      some "/api/v1/deployments/a" := by
    decide +kernel
  have hsent := Client.mem_sent_of_target hlog alikeSession
  have hsent' := Client.mem_sent_of_target hcreate alikeSession
  refine ⟨_, hsent, rfl, ?_, _, hsent', ?_⟩
  · exact (haddress _ "a/b" _ rfl _ hsent).1.2 (by decide)
  · exact hdistinct _ _ "a/b" "a" _ _ rfl rfl (by decide) (by decide) (by decide) _ hsent _ hsent'

/-- Two dots for a name lead to the directory above the deployments, and one dot leads to the
deployment that is named like what is asked for. -/
theorem dots_reach_other_paths :
    Client.ofBase "http://127.0.0.1:8680" = .ok localClient ∧
      (∃ a ∈ localClient.sent (.status "..") alikeSession, a.request.target = "/api/v1/install" ∧
        ¬Addresses ".." (Call.below (.status "..")) a.request.target) ∧
      ∃ a ∈ localClient.sent (.status ".") alikeSession,
        ∃ a' ∈ localClient.sent (.create "install" {}) alikeSession,
          pathOf a.request.target = pathOf a'.request.target := by
  have hbase : Client.ofBase "http://127.0.0.1:8680" = .ok localClient :=
    Client.ofBase_of_scheme (by decide +kernel)
  have habove : localClient.target? (Call.path (.status "..")) = some "/api/v1/install" := by
    decide +kernel
  have hbeside : localClient.target? (Call.path (.status ".")) =
      some "/api/v1/deployments/install" := by
    decide +kernel
  have hnamed : localClient.target? (Call.path (.create "install" {})) =
      some "/api/v1/deployments/install" := by
    decide +kernel
  refine ⟨hbase, ?_, ?_⟩
  · exact ⟨_, Client.mem_sent_of_target habove _, rfl, not_addresses_stray (by decide)⟩
  · exact ⟨_, Client.mem_sent_of_target hbeside _, _, Client.mem_sent_of_target hnamed _, rfl⟩

end Service

end DeployWizard
