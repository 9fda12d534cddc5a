import Mathlib.Algebra.Group.Nat.Defs
import Mathlib.Order.Lattice
import Mathlib.Tactic.Common
import DeployWizard.Proofs.Calls

set_option autoImplicit false

/-!
How often a request is sent. A call goes on to the next attempt only after an error that may pass;
the attempt that ends it decides its result, and the next call goes on with the replies after it.
-/
namespace DeployWizard

namespace Script
variable {α : Type}

def drop (s : Script α) (n : Nat) : Script α :=
  { s with upcoming := s.upcoming.drop n }

theorem drop_drop (s : Script α) (m n : Nat) : (s.drop m).drop n = s.drop (m + n) := by
  simp only [drop, List.drop_drop]

theorem next_snd (s : Script α) : s.next.2 = s.drop 1 := by
  rcases s with ⟨_ | ⟨a, as⟩, b⟩ <;> rfl

theorem get_drop (s : Script α) (n i : Nat) : (s.drop n).get i = s.get (n + i) := by
  simp only [drop, get, List.getElem?_drop]

end Script

namespace Service

def busy : List UInt16 := [429, 502, 503, 504]

/-- An error may pass if no answer came or the service is busy. -/
def Error.MayPass : Error → Prop
  | .network _ | .timeout _ => True
  | .http status _ => status ∈ busy
  | _ => False

theorem Error.isRetryable_iff (e : Error) : e.isRetryable = true ↔ e.MayPass := by
  cases e with
  | http status body =>
    simp only [isRetryable, MayPass, busy, Bool.or_eq_true, Bool.and_eq_true, decide_eq_true_eq,
      List.mem_cons, List.not_mem_nil, or_false, ← UInt16.toNat_inj, UInt16.le_iff_toNat_le]
    change _ ∨ 502 ≤ status.toNat ∧ status.toNat ≤ 504 ↔ _ ∨ _ = 502 ∨ _ = 503 ∨ _ = 504
    omega
  | network => simp [isRetryable, MayPass]
  | timeout => simp [isRetryable, MayPass]
  | refused => simp [isRetryable, MayPass]
  | unreadable => simp [isRetryable, MayPass]
  | unwritable => simp [isRetryable, MayPass]
  | invalidConfig => simp [isRetryable, MayPass]

def Reply.MayPass (reply : Reply) : Prop :=
  ∃ e, reply.outcome = .error e ∧ e.MayPass

/-- A request that may be sent again a number of times is decided by an attempt: all before it came
to errors that may pass, and it did not or was the last one allowed. -/
structure DecidedAt (retries : Nat) (replies : Nat → Reply) (k : Nat) : Prop where
  le : k ≤ retries
  passing : ∀ i < k, (replies i).MayPass
  settled : k < retries → ¬(replies k).MayPass

theorem DecidedAt.iff_eq {retries : Nat} {replies : Nat → Reply} {k : Nat}
    (hk : DecidedAt retries replies k) (j : Nat) : DecidedAt retries replies j ↔ j = k := by
  refine ⟨fun hj => ?_, fun h => h ▸ hk⟩
  obtain hlt | heq | hlt := Nat.lt_trichotomy j k
  · exact absurd (hk.passing j hlt) (hj.settled (Nat.lt_of_lt_of_le hlt hk.le))
  · exact heq
  · exact absurd (hj.passing k hlt) (hk.settled (Nat.lt_of_lt_of_le hlt hj.le))

theorem DecidedAt.now {retries : Nat} {replies : Nat → Reply}
    (h : 0 < retries → ¬(replies 0).MayPass) : DecidedAt retries replies 0 :=
  ⟨Nat.zero_le _, fun _ hi => absurd hi (Nat.not_lt_zero _), h⟩

theorem DecidedAt.later {retries k : Nat} {replies : Nat → Reply} (h : (replies 0).MayPass)
    (hk : DecidedAt retries (fun i => replies (i + 1)) k) :
    DecidedAt (retries + 1) replies (k + 1) := by
  refine ⟨Nat.succ_le_succ hk.le, ?_, fun hlt => hk.settled (Nat.lt_of_succ_lt_succ hlt)⟩
  intro i hi
  cases i with
  | zero => exact h
  | succ i => exact hk.passing i (Nat.lt_of_succ_lt_succ hi)

/-- The wait doubles from a tenth of a second up to ten seconds. No machine word overflows. -/
theorem backoff_toNat (i : UInt32) : (backoff i).toNat = min (100 * 2 ^ i.toNat) 10000 := by
  have hplaces : (min i 20).toNat = min i.toNat 20 := UInt32.toNat_min i 20
  have hsmall : 2 ^ min i.toNat 20 ≤ 2 ^ 20 :=
    Nat.pow_le_pow_right (by decide) (Nat.min_le_right _ _)
  have hdoubled :
      (100 * ((1 : UInt64) <<< (min i 20).toUInt64)).toNat = 100 * 2 ^ min i.toNat 20 := by
    rw [UInt64.toNat_mul, UInt64.toNat_shiftLeft, UInt32.toNat_toUInt64, hplaces,
      Nat.mod_eq_of_lt (show min i.toNat 20 < 64 by omega), Nat.shiftLeft_eq]
    change 100 * (1 * 2 ^ min i.toNat 20 % 2 ^ 64) % 2 ^ 64 = _
    omega
  rw [backoff, UInt64.toNat_min, hdoubled]
  change min _ 10000 = _
  obtain hle | hlt := le_or_gt i.toNat 20
  · rw [Nat.min_eq_left hle]
  · have hbig : 2 ^ 20 ≤ 2 ^ i.toNat := Nat.pow_le_pow_right (by decide) hlt.le
    rw [Nat.min_eq_right hlt.le]
    omega

namespace Session
variable {r : Request}

def after (s : Session) (r : Request) (first : UInt32) (k : Nat) : Session where
  server := s.server.drop (k + 1)
  attempts := s.attempts ++ (List.range (k + 1)).map fun i => ⟨r, s.server.get i⟩
  waits := s.waits ++ (List.range k).map fun i => backoff (first + UInt32.ofNat i)

theorem attempt_eq (s : Session) (r : Request) (first : UInt32) :
    s.attempt (some r) = ((s.server.get 0).outcome, s.after r first 0) := by
  simp [attempt, after, ← Script.next_fst, ← Script.next_snd]

def awaiting (s : Session) (r : Request) (attempt : UInt32) : Session :=
  { s.after r attempt 0 with waits := (s.after r attempt 0).waits ++ [backoff attempt] }

theorem get_awaiting (s : Session) (r : Request) (attempt : UInt32) :
    (s.awaiting r attempt).server.get = fun i => s.server.get (i + 1) := by
  funext i
  exact (s.server.get_drop 1 i).trans (by rw [Nat.add_comm])

theorem after_awaiting (s : Session) (r : Request) (attempt : UInt32) (k : Nat) :
    (s.awaiting r attempt).after r (attempt + 1) k = s.after r attempt (k + 1) := by
  have hnumber (i : Nat) : attempt + 1 + UInt32.ofNat i = attempt + UInt32.ofNat (i + 1) := by
    rw [UInt32.ofNat_add, UInt32.add_assoc, UInt32.add_comm 1]
    rfl
  simp only [after, awaiting, Script.drop_drop, Script.get_drop, hnumber, List.append_assoc,
    mk.injEq, List.append_cancel_left_eq]
  refine ⟨by congr 1; omega, ?_, ?_⟩
  · simp [List.range_succ_eq_map (n := k + 1), Nat.add_comm 1]
  · simp [List.range_succ_eq_map (n := k)]

section Loop
variable {retries attempt : UInt32} {last : Option Error} {s : Session}

theorem sendFrom_of_settled (left : Nat) (h : attempt < retries → ¬(s.server.get 0).MayPass) :
    sendFrom (some r) retries (left + 1) attempt last s =
      ((s.server.get 0).outcome, s.after r attempt 0) := by
  rw [sendFrom, s.attempt_eq r attempt]
  cases hreply : (s.server.get 0).outcome with
  | ok text => rfl
  | error e =>
    have hends : (attempt < retries && e.isRetryable) = false := by
      rw [← Bool.not_eq_true, Bool.and_eq_true, decide_eq_true_eq, e.isRetryable_iff]
      exact fun ⟨hmore, hpass⟩ => h hmore ⟨e, hreply, hpass⟩
    simp [hends]

theorem sendFrom_of_mayPass (last : Option Error) (left : Nat) (hmore : attempt < retries)
    (h : (s.server.get 0).MayPass) :
    ∃ e, sendFrom (some r) retries (left + 1) attempt last s =
      sendFrom (some r) retries left (attempt + 1) (some e) (s.awaiting r attempt) := by
  obtain ⟨e, hreply, hpass⟩ := h
  have hagain : (attempt < retries && e.isRetryable) = true := by
    rw [Bool.and_eq_true, decide_eq_true_eq, e.isRetryable_iff]
    exact ⟨hmore, hpass⟩
  refine ⟨e, ?_⟩
  rw [sendFrom, s.attempt_eq r attempt, hreply]
  simp only [hagain, if_true]
  rfl

end Loop

/-- The loop of attempts, from any of them on: the attempt that decides the call is its last one. -/
theorem sendFrom_eq {retries : UInt32} {left : Nat} {attempt : UInt32}
    (hleft : attempt.toNat + left = retries.toNat) (last : Option Error) (s : Session) :
    ∃ k, DecidedAt left s.server.get k ∧
      sendFrom (some r) retries (left + 1) attempt last s =
        ((s.server.get k).outcome, s.after r attempt k) := by
  induction left generalizing attempt last s with
  | zero =>
    refine ⟨0, .now fun h => absurd h (Nat.lt_irrefl 0), sendFrom_of_settled 0 fun hmore => ?_⟩
    rw [UInt32.lt_iff_toNat_lt] at hmore
    omega
  | succ left ih =>
    by_cases hpass : (s.server.get 0).MayPass
    · have hbound := retries.toNat_lt
      -- There are fewer attempts than a machine word counts.
      have hnumber : (attempt + 1).toNat = attempt.toNat + 1 := by
        rw [UInt32.toNat_add]
        exact Nat.mod_eq_of_lt (show attempt.toNat + 1 < 2 ^ 32 by omega)
      have hmore : attempt < retries := by
        rw [UInt32.lt_iff_toNat_lt]
        omega
      obtain ⟨e, hagain⟩ := sendFrom_of_mayPass (r := r) last (left + 1) hmore hpass
      have hleft' : (attempt + 1).toNat + left = retries.toNat := by omega
      obtain ⟨k, hk, hrest⟩ := ih hleft' (some e) (s.awaiting r attempt)
      rw [get_awaiting] at hk hrest
      exact ⟨k + 1, hk.later hpass, by rw [hagain, hrest, after_awaiting]⟩
    · exact ⟨0, .now fun _ => hpass, sendFrom_of_settled (left + 1) fun _ => hpass⟩

structure Untouched (s t : Session) : Prop where
  attempts : t.attempts = s.attempts
  server : t.server = s.server

theorem sendFrom_none {retries : UInt32} {left : Nat} {last : Option Error}
    (h : left = 0 → last = some unsendable) (attempt : UInt32) (s : Session) :
    (sendFrom none retries left attempt last s).1 = .error unsendable ∧
      s.Untouched (sendFrom none retries left attempt last s).2 := by
  induction left generalizing attempt last s with
  | zero =>
    rw [h rfl]
    exact ⟨rfl, rfl, rfl⟩
  | succ left ih =>
    simp only [sendFrom, Session.attempt]
    split
    next =>
      obtain ⟨hfails, hsame⟩ := ih (fun _ => rfl) (attempt + 1)
        { s with waits := s.waits ++ [backoff attempt] }
      exact ⟨hfails, hsame.attempts, hsame.server⟩
    next => exact ⟨rfl, rfl, rfl⟩

theorem send_none (s : Session) (retries : UInt32) :
    (s.send none retries).1 = .error unsendable ∧ s.Untouched (s.send none retries).2 := by
  unfold send
  split
  next => exact ⟨rfl, rfl, rfl⟩
  next => exact sendFrom_none (fun h => absurd h (Nat.succ_ne_zero _)) 0 s

theorem send_eq (s : Session) (r : Request) (retries : UInt32) :
    ∃ k, DecidedAt retries.toNat s.server.get k ∧
      s.send (some r) retries = ((s.server.get k).outcome, s.after r 0 k) := by
  unfold send
  split
  next h =>
    subst h
    exact ⟨0, .now fun h => absurd h (Nat.lt_irrefl 0), s.attempt_eq r 0⟩
  next => exact sendFrom_eq (Nat.zero_add _) none s

end Session

theorem exhausted_ne_outcome (reply : Reply) : reply.outcome ≠ .error exhausted := by
  have hjudge (status : UInt16) (body : String) :
      Reply.judge status body ≠ .error exhausted := by
    unfold Reply.judge
    split <;> simp [exhausted]
  cases reply with
  | answer status body =>
    simp only [Reply.outcome]
    split
    · simp [exhausted]
    · exact hjudge _ _
  | short status body =>
    simp only [Reply.outcome]
    split
    · simp [exhausted]
    · split
      · exact hjudge _ _
      · simp [exhausted]
  | dropped => simp [Reply.outcome, exhausted]
  | silent => simp [Reply.outcome, exhausted]
  | refused => simp [Reply.outcome, exhausted]

/-- A call for which requests can be sent to a target: the attempt that decides it, what was sent
up to then, and what came of it. -/
structure Conducted (c : Client) (call : Call) (s : Session) (target : String) (k : Nat) :
    Prop where
  decided : ∀ j, DecidedAt c.retries.toNat s.server.get j ↔ j = k
  attempts : (c.perform call s).2.attempts =
    s.attempts ++ (List.range (k + 1)).map fun i =>
      ⟨⟨call.method, target, call.body⟩, s.server.get i⟩
  waits : (c.perform call s).2.waits.map UInt64.toNat =
    s.waits.map UInt64.toNat ++ (List.range k).map fun i => min (100 * 2 ^ i) 10000
  server : (c.perform call s).2.server = s.server.drop (k + 1)
  result : (c.perform call s).1 = (s.server.get k).outcome.bind call.read

namespace Client
variable {c : Client} {call : Call}

theorem perform_of_no_target (h : c.target? call.path = none) (s : Session) :
    (c.perform call s).1 = .error unsendable ∧ s.Untouched (c.perform call s).2 := by
  have hsend : (c.send call.method call.path call.body s).1 = .error unsendable ∧
      s.Untouched (c.send call.method call.path call.body s).2 := by
    rw [send]
    rw [target?] at h
    cases hurl : Url.parse? (c.endpoint call.path) with
    | none => exact ⟨rfl, rfl, rfl⟩
    | some u =>
      rw [hurl, Option.bind_some] at h
      simp only [h, Option.map_none]
      exact s.send_none c.retries
  rw [perform_eq, hsend.1]
  exact ⟨rfl, hsend.2⟩

theorem conducted_of_target {target : String} (h : c.target? call.path = some target)
    (s : Session) : ∃ k, Conducted c call s target k := by
  obtain ⟨k, hk, hsent⟩ := s.send_eq ⟨call.method, target, call.body⟩ c.retries
  have hperform : c.perform call s =
      ((s.server.get k).outcome.bind call.read,
        s.after ⟨call.method, target, call.body⟩ 0 k) := by
    obtain ⟨u, hurl, hreached⟩ := Option.bind_eq_some_iff.1 h
    simp only [perform_eq, send, hurl, hreached, Option.map_some, hsent]
  have hnumber (i : Nat) (hi : i < k) : (0 + UInt32.ofNat i).toNat = i := by
    have hbound := c.retries.toNat_lt
    have hle := hk.le
    rw [UInt32.zero_add]
    exact UInt32.toNat_ofNat_of_lt' (show i < 2 ^ 32 by omega)
  refine ⟨k, hk.iff_eq, by rw [hperform]; rfl, ?_, by rw [hperform]; rfl, by rw [hperform]⟩
  rw [hperform]
  simp only [Session.after, List.map_append, List.map_map, List.append_cancel_left_eq]
  refine List.map_congr_left fun i hi => ?_
  rw [Function.comp_apply, backoff_toNat, hnumber i (List.mem_range.1 hi)]

def sent (c : Client) (call : Call) (s : Session) : List Attempt :=
  (c.perform call s).2.attempts.drop s.attempts.length

theorem sent_of_no_target (h : c.target? call.path = none) (s : Session) :
    c.sent call s = [] := by
  rw [sent, (perform_of_no_target h s).2.attempts, List.drop_length]

theorem sent_of_target {target : String} (h : c.target? call.path = some target)
    (s : Session) :
    ∃ k, c.sent call s =
      (List.range (k + 1)).map fun i => ⟨⟨call.method, target, call.body⟩, s.server.get i⟩ := by
  obtain ⟨k, hk⟩ := conducted_of_target h s
  exact ⟨k, by rw [sent, hk.attempts, List.drop_left]⟩

theorem request_of_mem_sent {s : Session} {a : Attempt} (h : a ∈ c.sent call s) :
    ∃ target, c.target? call.path = some target ∧
      a.request = ⟨call.method, target, call.body⟩ := by
  cases htarget : c.target? call.path with
  | none =>
    rw [sent_of_no_target htarget] at h
    cases h
  | some target =>
    obtain ⟨k, hk⟩ := sent_of_target htarget s
    rw [hk] at h
    obtain ⟨i, -, rfl⟩ := List.mem_map.1 h
    exact ⟨target, rfl, rfl⟩

theorem target?_of_mem_sent {s : Session} {a : Attempt} (h : a ∈ c.sent call s) :
    c.target? call.path = some a.request.target := by
  obtain ⟨target, htarget, hrequest⟩ := request_of_mem_sent h
  rw [htarget, hrequest]

theorem mem_sent_of_target {target : String} (h : c.target? call.path = some target)
    (s : Session) : ⟨⟨call.method, target, call.body⟩, s.server.get 0⟩ ∈ c.sent call s := by
  obtain ⟨k, hk⟩ := sent_of_target h s
  rw [hk]
  exact List.mem_map.2 ⟨0, List.mem_range.2 (Nat.succ_pos k), rfl⟩

theorem sent_ne_nil_iff (s : Session) : c.sent call s ≠ [] ↔ (c.target? call.path).isSome := by
  cases htarget : c.target? call.path with
  | none => simp [sent_of_no_target htarget]
  | some target =>
    have hmem := mem_sent_of_target htarget s
    simp [List.ne_nil_of_mem hmem]

theorem perform_ne_exhausted (c : Client) (call : Call) (s : Session) :
    (c.perform call s).1 ≠ .error exhausted := by
  cases h : c.target? call.path with
  | none =>
    rw [(perform_of_no_target h s).1]
    simp [unsendable, exhausted]
  | some target =>
    obtain ⟨k, hk⟩ := conducted_of_target h s
    rw [hk.result]
    cases hreply : (s.server.get k).outcome with
    | ok text =>
      intro hread
      obtain ⟨_, h⟩ | ⟨_, h⟩ := read_error hread <;> cases h
    | error e =>
      intro hexhausted
      have he : e = exhausted := Except.error.inj hexhausted
      exact exhausted_ne_outcome _ (he ▸ hreply)

def performAll (c : Client) (calls : List Call) (s : Session) : Session :=
  calls.foldl (fun s call => (c.perform call s).2) s

/-- From one session to a later one attempts were made, each with the next reply of the script. -/
def Consumes (s t : Session) : Prop :=
  ∃ sent : List Attempt, t.attempts = s.attempts ++ sent ∧
    sent.map (·.reply) = (List.range sent.length).map s.server.get ∧
    t.server = s.server.drop sent.length

theorem Consumes.refl (s : Session) : Consumes s s :=
  ⟨[], (List.append_nil _).symm, rfl, rfl⟩

theorem Consumes.trans {s t u : Session} (hst : Consumes s t) (htu : Consumes t u) :
    Consumes s u := by
  obtain ⟨sent, hattempts, hreplies, hserver⟩ := hst
  obtain ⟨sent', hattempts', hreplies', hserver'⟩ := htu
  refine ⟨sent ++ sent', ?_, ?_, ?_⟩
  · rw [hattempts', hattempts, List.append_assoc]
  · rw [List.map_append, hreplies, hreplies', hserver, List.length_append, List.range_add,
      List.map_append, List.map_map]
    exact congrArg _ (List.map_congr_left fun i _ => s.server.get_drop _ i)
  · rw [hserver', hserver, Script.drop_drop, List.length_append]

theorem perform_consumes (c : Client) (call : Call) (s : Session) :
    Consumes s (c.perform call s).2 := by
  cases h : c.target? call.path with
  | none =>
    have hsame := (perform_of_no_target h s).2
    refine ⟨[], ?_, rfl, hsame.server⟩
    rw [hsame.attempts, List.append_nil]
  | some target =>
    obtain ⟨k, hk⟩ := conducted_of_target h s
    refine ⟨_, hk.attempts, ?_, ?_⟩
    · rw [List.map_map, List.length_map, List.length_range]
      rfl
    · rw [hk.server, List.length_map, List.length_range]

theorem performAll_consumes (c : Client) (calls : List Call) (s : Session) :
    Consumes s (c.performAll calls s) := by
  induction calls generalizing s with
  | nil => exact .refl s
  | cons call calls ih => exact (perform_consumes c call s).trans (ih _)

theorem attempts_perform (c : Client) (call : Call) (s : Session) :
    (c.perform call s).2.attempts = s.attempts ++ c.sent call s := by
  obtain ⟨sent, hattempts, -⟩ := perform_consumes c call s
  rw [Client.sent, hattempts, List.drop_left]

theorem attempts_polling (c : Client) (call : Call) (s : Session) :
    (c.polling.perform call s).2.attempts =
      s.attempts ++ (c.target? call.path).toList.map fun target =>
        ⟨⟨call.method, target, call.body⟩, s.server.get 0⟩ := by
  cases h : c.target? call.path with
  | none =>
    rw [(perform_of_no_target (c := c.polling) h s).2.attempts]
    exact (List.append_nil _).symm
  | some target =>
    obtain ⟨k, hk⟩ := conducted_of_target (c := c.polling) h s
    have honce : k = 0 := Nat.le_zero.1 ((hk.decided k).2 rfl).le
    rw [hk.attempts, honce]
    rfl

end Client

/-- Requests are sent until an attempt decides the call. -/
theorem calls_sent_until_decided (c : Client) :
    (∀ call s,
      match c.target? call.path with
      | none =>
        (c.perform call s).1 = .error unsendable ∧ s.Untouched (c.perform call s).2
      | some target => ∃ k, Conducted c call s target k) ∧
      (∀ call s, (c.perform call s).1 ≠ .error exhausted) ∧
      (∀ calls s, Client.Consumes s (c.performAll calls s)) ∧
      (∀ i, (backoff i).toNat = min (100 * 2 ^ i.toNat) 10000) ∧
      ∀ call s,
        (c.polling.perform call s).2.attempts = s.attempts ++
          (c.target? call.path).toList.map fun target =>
            ⟨⟨call.method, target, call.body⟩, s.server.get 0⟩ := by
  refine ⟨fun call s => ?_, c.perform_ne_exhausted, c.performAll_consumes, backoff_toNat,
    c.attempts_polling⟩
  split
  next h => exact Client.perform_of_no_target h s
  next target h => exact Client.conducted_of_target h s

def adminText : String := "\x7b\"success\":true,\"data\":\x7b\"user\":\"admin\"\x7d\x7d"

/-- A client whose base URL has a blank after it. -/
def blankClient : Client := ⟨"http://127.0.0.1:8680 ", Client.defaultRetries⟩

theorem ofBase_blank : Client.ofBase blankClient.baseUrl = .ok blankClient :=
  Client.ofBase_of_scheme (by decide +kernel)

theorem blankClient_info_target : blankClient.target? (Call.path .info) = none := by
  decide +kernel

/-- A base URL with a blank after it is accepted, but what is asked for below it has no URL: no
attempt is made, and the call fails although the first reply would have decided it. -/
theorem unsendable_call_makes_no_attempt :
    let s : Session := ⟨⟨[.answer 200 adminText], .answer 500 ""⟩, [], []⟩
    Client.ofBase blankClient.baseUrl = .ok blankClient ∧
      DecidedAt blankClient.retries.toNat s.server.get 0 ∧
      (s.server.get 0).outcome.bind (Call.read .info) = .ok ⟨"admin"⟩ ∧
      (blankClient.perform .info s).1 = .error unsendable ∧
      s.Untouched (blankClient.perform .info s).2 := by
  intro s
  have hanswer : (s.server.get 0).outcome = .ok adminText := rfl
  have henvelope : (Json.read? adminText).bind (Payload.asEnvelope Payload.asServiceInfo) =
      some ⟨true, some ⟨"admin"⟩, none⟩ := by decide +kernel
  have hread : Client.interpret (Call.endpoint .info) Payload.asServiceInfo adminText =
      .ok (some ⟨"admin"⟩) := by
    rw [Client.interpret, henvelope]
    rfl
  refine ⟨ofBase_blank, .now fun _ => ?_, ?_,
    Client.perform_of_no_target blankClient_info_target s⟩
  · rintro ⟨e, he, -⟩
    rw [hanswer] at he
    cases he
  · rw [hanswer]
    exact congrArg (Except.bind · (Call.ofData .info)) hread

end Service

end DeployWizard
