import Mathlib.Tactic.Common
import DeployWizard.Payload.Deployment
import DeployWizard.Proofs.Masking
import DeployWizard.Proofs.PayloadCodecs

set_option autoImplicit false

namespace DeployWizard

namespace Redaction
open Json

def placeholder : String := "******"

theorem maskedValue_eq : maskedValue = ':' :: quoted placeholder := by decide

end Redaction

namespace Json.Value
open Redaction

def isLiteral : Value → Bool
  | .text _ | .unreadable => true
  | _ => false

mutual
/-- The value with every text under a secret key hidden. -/
def masked : Value → Value
  | .array vs => .array (maskedItems vs)
  | .object ms => .object (maskedMembers ms)
  | v => v

def maskedItems : List Value → List Value
  | [] => []
  | v :: vs => masked v :: maskedItems vs

def maskedMembers : List (String × Value) → List (String × Value)
  | [] => []
  | (k, v) :: ms =>
    (k, if isSecret k && isLiteral v then .text placeholder else masked v) :: maskedMembers ms
end

end Json.Value

namespace Redaction
open Json

def Closes (rest : List Char) : Prop :=
  ∀ c, rest.head? = some c → c ∈ [',', ']', '\x7d']

def Masks (v : Value) : Prop :=
  ∀ rest, Closes rest → maskFrom 0 (v.write ++ rest) = v.masked.write ++ maskFrom 0 rest

theorem Closes.head?_ne {rest : List Char} (h : Closes rest) {c : Char}
    (hc : c ∉ [',', ']', '\x7d']) : rest.head? ≠ some c :=
  fun hhead => hc (h c hhead)

theorem Closes.afterValue? {rest : List Char} (h : Closes rest) :
    Redaction.afterValue? rest = none := by
  cases rest with
  | nil => rfl
  | cons c rest =>
    have hc := h c rfl
    simp only [List.mem_cons, List.not_mem_nil, or_false] at hc
    obtain rfl | rfl | rfl := hc <;> rfl

theorem ne_of_isAsciiDigit {c : Char} (h : Text.isAsciiDigit c = true) :
    Text.isBlank c = false ∧ c ≠ '"' := by
  simp only [Text.isAsciiDigit, Bool.and_eq_true, decide_eq_true_eq] at h
  constructor
  · simp only [Text.isBlank, Bool.or_eq_false_iff, Bool.and_eq_false_iff, decide_eq_false_iff_not,
      beq_eq_false_iff_ne]
    omega
  · rintro rfl
    exact absurd h.1 (by decide)

theorem afterValue?_of_not_isLiteral {v : Value} (hv : Plain v) (h : v.isLiteral = false)
    (rest : List Char) : Redaction.afterValue? (':' :: (v.write ++ rest)) = none := by
  cases hv with
  | null => rfl
  | bool b => cases b <;> rfl
  | natural n =>
    rw [Value.write_ofNat]
    obtain ⟨c, cs, hcs⟩ := List.exists_cons_of_ne_nil (l := Text.decimal n) Nat.toDigits_ne_nil
    obtain ⟨hblank, hquote⟩ := ne_of_isAsciiDigit
      (Text.isAsciiDigit_of_mem_decimal (n := n) (hcs ▸ List.mem_cons_self))
    have hcolon : Text.isBlank ':' = false := rfl
    simp [Redaction.afterValue?, hcs, hcolon, hblank, hquote]
  | text s => cases h
  | unreadable => cases h
  | @array vs _ => cases vs <;> rfl
  | @object ms _ => cases ms <;> rfl

theorem exists_literal_of_isLiteral {v : Value} (h : v.isLiteral = true) :
    ∃ l : Literal, v.write = l.chars := by
  cases v with
  | text s => exact ⟨.ofText s, rfl⟩
  | unreadable => exact ⟨.halfPair, rfl⟩
  | _ => cases h

theorem afterValue?_of_isLiteral {v : Value} (h : v.isLiteral = true) (rest : List Char) :
    Redaction.afterValue? (':' :: (v.write ++ rest)) = some rest := by
  obtain ⟨l, hl⟩ := exists_literal_of_isLiteral h
  rw [hl, Literal.chars, List.cons_append, List.append_assoc]
  exact afterLiteral?_body l.spelled rest

theorem closes_writeItems (vs : List Value) (rest : List Char) :
    Closes (Value.writeItems vs ++ rest) := by
  cases vs <;> simp [Closes, Value.writeItems]

theorem closes_writeMembers (ms : List (String × Value)) (rest : List Char) :
    Closes (Value.writeMembers ms ++ rest) := by
  cases ms <;> simp [Closes, Value.writeMembers]

theorem maskFrom_writeItems {vs : List Value} (h : ∀ v ∈ vs, Masks v) (rest : List Char) :
    maskFrom 0 (Value.writeItems vs ++ rest) =
      Value.writeItems (Value.maskedItems vs) ++ maskFrom 0 rest := by
  induction vs with
  | nil => exact maskFrom_cons (by decide) rest
  | cons v vs ih =>
    have hitem := h v List.mem_cons_self _ (closes_writeItems vs rest)
    have hrest := ih fun u hu => h u (List.mem_cons_of_mem v hu)
    simp only [Value.writeItems, Value.maskedItems, List.cons_append, List.append_assoc]
    rw [maskFrom_cons (by decide), hitem, hrest]

theorem maskFrom_member (k : String) {v : Value} (hv : Plain v) (h : Masks v) {rest : List Char}
    (hrest : Closes rest) :
    maskFrom 0 (quoted k ++ ':' :: (v.write ++ rest)) =
      quoted k ++ ':' :: ((if isSecret k && v.isLiteral then Value.text placeholder
        else v.masked).write ++ maskFrom 0 rest) := by
  have hkept : maskFrom 0 (':' :: (v.write ++ rest)) =
      ':' :: (v.masked.write ++ maskFrom 0 rest) := by
    rw [maskFrom_cons (by decide), h rest hrest]
  -- Were the closing quote followed by the name, a match could begin there.
  have hhead : (':' :: (v.write ++ rest)).head? ≠ some 'p' := by simp
  rw [maskFrom_quoted k hhead]
  cases hsecret : isSecret k with
  | false => exact congrArg _ hkept
  | true =>
    cases hliteral : v.isLiteral with
    | true =>
      rw [maskAfter_of_some (afterValue?_of_isLiteral hliteral rest), maskedValue_eq]
      rfl
    | false =>
      rw [maskAfter_of_none (afterValue?_of_not_isLiteral hv hliteral rest), hkept]
      rfl

theorem maskFrom_writeMembers {ms : List (String × Value)} (hplain : ∀ m ∈ ms, Plain m.2)
    (h : ∀ m ∈ ms, Masks m.2) (rest : List Char) :
    maskFrom 0 (Value.writeMembers ms ++ rest) =
      Value.writeMembers (Value.maskedMembers ms) ++ maskFrom 0 rest := by
  induction ms with
  | nil => exact maskFrom_cons (by decide) rest
  | cons m ms ih =>
    obtain ⟨k, v⟩ := m
    have hrest := ih (fun m hm => hplain m (List.mem_cons_of_mem _ hm))
      (fun m hm => h m (List.mem_cons_of_mem _ hm))
    have hmember := maskFrom_member k (hplain (k, v) List.mem_cons_self)
      (h (k, v) List.mem_cons_self) (closes_writeMembers ms rest)
    simp only [Value.writeMembers, Value.maskedMembers, List.cons_append, List.append_assoc]
    rw [maskFrom_cons (by decide), hmember, hrest]

theorem masks_of_no_quote {v : Value} (h : '"' ∉ v.write) (hv : v.masked = v) :
    Masks v := by
  intro rest _
  rw [maskFrom_append h, hv]

theorem masks_literal {v : Value} (h : v.isLiteral = true) (hv : v.masked = v) : Masks v := by
  intro rest hrest
  obtain ⟨l, hl⟩ := exists_literal_of_isLiteral h
  rw [hv, hl, maskFrom_literal l (hrest.head?_ne (by decide)), maskAfter_of_none hrest.afterValue?]

theorem masks (v : Value) (hv : Plain v) : Masks v := by
  induction hv with
  | null => exact masks_of_no_quote (by decide) rfl
  | bool b => cases b <;> exact masks_of_no_quote (by decide) rfl
  | natural n =>
    refine masks_of_no_quote (fun hquote => ?_) rfl
    rw [Value.write_ofNat] at hquote
    exact (ne_of_isAsciiDigit (Text.isAsciiDigit_of_mem_decimal hquote)).2 rfl
  | text s => exact masks_literal rfl rfl
  | unreadable => exact masks_literal rfl rfl
  | @array vs h ih =>
    intro rest _
    cases vs with
    | nil =>
      have hplain : '"' ∉ ['[', ']'] := by decide
      exact maskFrom_append hplain rest
    | cons v vs =>
      have hitem := ih v List.mem_cons_self _ (closes_writeItems vs rest)
      have hitems := maskFrom_writeItems (fun u hu => ih u (List.mem_cons_of_mem v hu)) rest
      simp only [Value.write, Value.masked, Value.maskedItems, List.cons_append, List.append_assoc]
      rw [maskFrom_cons (by decide), hitem, hitems]
  | @object ms h ih =>
    intro rest _
    cases ms with
    | nil =>
      have hplain : '"' ∉ ['\x7b', '\x7d'] := by decide
      exact maskFrom_append hplain rest
    | cons m ms =>
      obtain ⟨k, v⟩ := m
      have hmember := maskFrom_member k (h (k, v) List.mem_cons_self) (ih (k, v) List.mem_cons_self)
        (closes_writeMembers ms rest)
      have hmembers := maskFrom_writeMembers (fun m hm => h m (List.mem_cons_of_mem _ hm))
        (fun m hm => ih m (List.mem_cons_of_mem _ hm)) rest
      simp only [Value.write, Value.masked, Value.maskedMembers, List.cons_append,
        List.append_assoc]
      rw [maskFrom_cons (by decide), hmember, hmembers]

/-- Masking the text of a value is masking the value. -/
theorem maskPasswords_render {v : Value} (h : Plain v) :
    maskPasswords v.render = v.masked.render := by
  have hclosed : Closes [] := fun c hc => by cases hc
  have hmasks := masks v h [] hclosed
  rw [List.append_nil] at hmasks
  rw [maskPasswords, Value.render, String.toList_ofList, hmasks]
  exact congrArg String.ofList (List.append_nil _)

end Redaction

namespace Payload
open Json Redaction

theorem maskedItems_map {α : Type} {write : α → Value} (h : ∀ a, (write a).masked = write a)
    (as : List α) : Value.maskedItems (as.map write) = as.map write := by
  induction as with
  | nil => rfl
  | cons a as ih => rw [List.map_cons, Value.maskedItems, h, ih]

theorem maskedMembers_append (ms ns : List (String × Value)) :
    Value.maskedMembers (ms ++ ns) = Value.maskedMembers ms ++ Value.maskedMembers ns := by
  induction ms with
  | nil => rfl
  | cons m ms ih =>
    obtain ⟨k, v⟩ := m
    rw [List.cons_append, Value.maskedMembers, Value.maskedMembers, ih, List.cons_append]

def Open (m : String × Value) : Prop :=
  isSecret m.1 = false ∧ m.2.masked = m.2

theorem open_pair {name : String} {v : Value} (hname : isSecret name = false)
    (hv : v.masked = v) : Open (name, v) :=
  ⟨hname, hv⟩

theorem maskedMembers_of_open {ms : List (String × Value)} (h : ∀ m ∈ ms, Open m) :
    Value.maskedMembers ms = ms := by
  induction ms with
  | nil => rfl
  | cons m ms ih =>
    obtain ⟨k, v⟩ := m
    obtain ⟨⟨hkey, hvalue⟩, hrest⟩ := List.forall_mem_cons.1 h
    rw [Value.maskedMembers, ih hrest, hvalue, hkey]
    rfl

theorem masked_object {ms : List (String × Value)} (h : ∀ m ∈ ms, Open m) :
    (Value.object ms).masked = .object ms :=
  congrArg Value.object (maskedMembers_of_open h)

theorem open_member {α : Type} {name : String} {write : α → Value}
    (hname : isSecret name = false) (h : ∀ a, (write a).masked = write a) (v : Option α) :
    ∀ m ∈ member name write v, Open m := by
  intro m hm
  cases v with
  | none => cases hm
  | some a =>
    rw [List.mem_singleton.1 hm]
    exact ⟨hname, h a⟩

theorem masked_list {α : Type} {write : α → Value} (h : ∀ a, (write a).masked = write a)
    (as : List α) : (Value.array (as.map write)).masked = .array (as.map write) :=
  congrArg Value.array (maskedItems_map h as)

theorem open_port {name : String} (hname : isSecret name = false) (p : Option UInt16) :
    ∀ m ∈ member name ofPort p, Open m :=
  open_member hname (fun _ => rfl) p

theorem masked_zone (z : ZonePlan) : (ofZone z).masked = ofZone z := by
  refine masked_object ?_
  simp only [List.forall_mem_append, List.forall_mem_cons]
  exact ⟨⟨open_pair rfl rfl, open_pair rfl (masked_list (fun _ => rfl) _), List.forall_mem_nil _⟩,
    open_member rfl (fun _ => rfl) _⟩

theorem masked_database (d : Database) : (ofDatabase d).masked = ofDatabase d := by
  refine masked_object ?_
  simp only [List.forall_mem_append, List.forall_mem_cons]
  exact ⟨⟨⟨⟨open_pair rfl rfl, open_pair rfl rfl, List.forall_mem_nil _⟩, open_port rfl _⟩,
    open_port rfl _⟩, open_pair rfl (masked_list masked_zone _), List.forall_mem_nil _⟩

theorem masked_versioned (version : String) (servers : List String) {ms : List (String × Value)}
    (h : ∀ m ∈ ms, Open m) :
    (Value.object (versionAndServers version servers ++ ms)).masked =
      .object (versionAndServers version servers ++ ms) := by
  have hlead : ∀ m ∈ versionAndServers version servers, Open m :=
    List.forall_mem_cons.2 ⟨open_pair rfl rfl, List.forall_mem_cons.2
      ⟨open_pair rfl (masked_list (fun _ => rfl) _), List.forall_mem_nil _⟩⟩
  exact masked_object (List.forall_mem_append.2 ⟨hlead, h⟩)

theorem masked_proxy (p : Proxy) : (ofProxy p).masked = ofProxy p := by
  rw [ofProxy, List.append_assoc]
  exact masked_versioned _ _ (List.forall_mem_append.2 ⟨open_port rfl _, open_port rfl _⟩)

theorem masked_agent (a : Agent) : (ofAgent a).masked = ofAgent a := by
  rw [ofAgent, List.append_assoc]
  exact masked_versioned _ _ (List.forall_mem_append.2 ⟨open_port rfl _, open_port rfl _⟩)

theorem masked_console (c : Console) : (ofConsole c).masked = ofConsole c :=
  masked_versioned _ _ (open_port rfl _)

theorem masked_configServer (c : ConfigServer) : (ofConfigServer c).masked = ofConfigServer c :=
  masked_versioned _ _ (open_port rfl _)

theorem masked_components (c : Components) : (ofComponents c).masked = ofComponents c := by
  refine masked_object ?_
  simp only [List.forall_mem_append, List.forall_mem_cons]
  exact ⟨⟨⟨⟨⟨open_pair rfl (masked_database _), List.forall_mem_nil _⟩,
    open_member rfl masked_proxy _⟩,
    open_member rfl masked_agent _⟩, open_member rfl masked_console _⟩,
    open_member rfl masked_configServer _⟩

theorem masked_auth {a : Auth} {password : String} (h : a.password = some password) :
    (ofAuth a).masked = ofAuth { a with password := some placeholder } := by
  rw [ofAuth, h]
  rfl

end Payload

def Deployment.password? (d : Deployment) : Option String :=
  d.auth.bind (·.password)

def Deployment.withPassword (d : Deployment) (password : String) : Deployment :=
  { d with auth := d.auth.map fun a => { a with password := some password } }

namespace Payload
open Json Redaction

theorem masked_deployment {d : Deployment} {password : String} (h : d.password? = some password) :
    (ofDeployment d).masked = ofDeployment (d.withPassword placeholder) := by
  obtain ⟨a, hauth, hpassword⟩ := Option.bind_eq_some_iff.1 h
  have hothers : ∀ m ∈ [("components", ofComponents d.components)] ++
      member "home_path" .text d.homePath, Open m := by
    simp only [List.forall_mem_append, List.forall_mem_cons]
    exact ⟨⟨open_pair rfl (masked_components _), List.forall_mem_nil _⟩,
      open_member rfl (fun _ => rfl) _⟩
  have hmembers : Value.maskedMembers (member "auth" ofAuth (some a)) =
      member "auth" ofAuth (some { a with password := some placeholder }) :=
    congrArg (fun v => [("auth", v)]) (masked_auth hpassword)
  rw [ofDeployment, hauth, List.append_assoc, Value.masked, maskedMembers_append, hmembers,
    maskedMembers_of_open hothers, ofDeployment, Deployment.withPassword, hauth, List.append_assoc]
  rfl

/-- Of two deployments that differ at most in their passwords the same is logged; and masking the
text of a deployment puts the placeholder in the place of its password and changes nothing else. -/
theorem logged_payload_hides_password {d e : Deployment} (hd : d.password?.isSome = true)
    (he : e.password?.isSome = true)
    (hsame : d.withPassword placeholder = e.withPassword placeholder) :
    redact (ofDeployment d).render = redact (ofDeployment e).render ∧
      maskPasswords (ofDeployment d).render =
        (ofDeployment (d.withPassword placeholder)).render := by
  have hmask {f : Deployment} (hf : f.password?.isSome = true) :
      maskPasswords (ofDeployment f).render =
        (ofDeployment (f.withPassword placeholder)).render := by
    obtain ⟨password, hpassword⟩ := Option.isSome_iff_exists.1 hf
    rw [maskPasswords_render (deployment_codec.plain f), masked_deployment hpassword]
  refine ⟨?_, hmask hd⟩
  rw [redact, redact, hmask hd, hmask he, hsame]

/-- A deployment whose other texts look like password members too. -/
def lookalike (password : String) : Deployment where
  auth := some ⟨"\"password\":\"", some password, defaultSshPort⟩
  components := { database := { appName := "password", zones := [⟨"\"password", [], some ""⟩] } }
  homePath := some ":\"\\"

theorem lookalike_logged :
    let first := lookalike "\",\"password\":\"\\\n"
    let second := lookalike "\\\""
    redact (ofDeployment first).render = redact (ofDeployment second).render ∧
      maskPasswords (ofDeployment first).render = (ofDeployment (lookalike "******")).render :=
  logged_payload_hides_password rfl rfl rfl

end Payload

end DeployWizard
