import DeployWizard.Text.Digit

set_option autoImplicit false

/-!
Punycode, which spells a label of any script in letters and digits. In front of the last hyphen
stand the characters that are plain; behind it, numbers say which other ones stand where.
-/
namespace DeployWizard.Domain.Punycode
open Text

def digit? (c : Char) : Option Nat :=
  let n := c.toNat
  if 97 ≤ n && n ≤ 122 then some (n - 97)
  else if isAsciiDigit c then some (n - 22)
  else none

def base : Nat := 36

/-- A digit below the threshold of its place ends the number. -/
def threshold (place bias : Nat) : Nat :=
  max 1 (min 26 (place - bias))

/-- One number and what follows it. It and the weights of its digits stay below the size of a
word. -/
def number? (bias : Nat) : Nat → Nat → Nat → List Char → Option (Nat × List Char)
  | _, _, _, [] => none
  | place, weight, sum, c :: cs =>
    match digit? c with
    | none => none
    | some d =>
      let sum := sum + d * weight
      let t := threshold place bias
      if UInt32.size ≤ sum then none
      else if d < t then some (sum, cs)
      else if UInt32.size ≤ weight * (base - t) then none
      else number? bias (place + base) (weight * (base - t)) sum cs

theorem number?_length {bias place weight sum n : Nat} {cs rest : List Char}
    (h : number? bias place weight sum cs = some (n, rest)) : rest.length < cs.length := by
  induction cs generalizing place weight sum with
  | nil => simp [number?] at h
  | cons c cs ih =>
    unfold number? at h
    split at h
    · simp at h
    · next d _ =>
      dsimp only at h
      split at h
      · simp at h
      · split at h
        · injection h with h
          injection h with _ h
          subst h
          exact Nat.lt_succ_self _
        · split at h
          · simp at h
          · exact Nat.lt_succ_of_lt (ih h)

/-- The place up to which numbers of about that size have digits. -/
def settle (k delta : Nat) : Nat :=
  if 455 < delta then settle (k + base) (delta / 35) else k + base * delta / (delta + 38)
termination_by delta
decreasing_by omega

/-- The bias for the next number; the first one of a label is as a rule much greater. -/
def adapt (delta length : Nat) (first : Bool) : Nat :=
  let delta := if first then delta / 700 else delta / 2
  settle 0 (delta + delta / length)

def charOf? (n : Nat) : Option Char :=
  if n < 0xD800 || (0xE000 ≤ n && n < 0x110000) then some (Char.ofNat n) else none

def insertAll (code place bias : Nat) (read cs : List Char) : Option (List Char) :=
  match _h : cs with
  | [] => some read
  | _ :: _ =>
    match _hn : number? bias base 1 place cs with
    | none => none
    | some (n, rest) =>
      let length := read.length + 1
      let code := code + n / length
      match charOf? code with
      | none => none
      | some c =>
        insertAll code (n % length + 1) (adapt (n - place) length (place = 0))
          (read.insertIdx (n % length) c) rest
termination_by cs.length
decreasing_by
  simpa [_h] using number?_length _hn

/-- The label that a text spells. A hyphen that nothing stands before parts nothing. -/
def decode? (cs : List Char) : Option (List Char) :=
  let coded := (cs.reverse.takeWhile (· ≠ '-')).reverse
  let plain := cs.take (cs.length - coded.length - 1)
  insertAll 128 0 72 plain (if plain.isEmpty then cs else coded)

end DeployWizard.Domain.Punycode
