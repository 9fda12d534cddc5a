import DeployWizard.Text.Blank
import DeployWizard.Toml.Text
import DeployWizard.Toml.Date
import DeployWizard.Json.Value

set_option autoImplicit false

namespace DeployWizard.Toml
open Text Json

def isBare (c : Char) : Bool :=
  isAsciiAlphanumeric c || c = '_' || c = '-'

def digits? (base : Nat) (cs : List Char) : Option Nat :=
  let runs := fields '_' cs
  if runs.any List.isEmpty then none
  else
    (runs.flatten.mapM fun c => (hexValue? c).filter (· < base)).map fun ds =>
      ds.foldl (fun n d => n * base + d) 0

def decimal? (cs : List Char) : Option Nat :=
  if cs.head? = some '0' && 1 < cs.length then none else digits? 10 cs

def integer? : List Char → Option Number
  | '0' :: 'x' :: cs => (digits? 16 cs).map .ofNat
  | '0' :: 'o' :: cs => (digits? 8 cs).map .ofNat
  | '0' :: 'b' :: cs => (digits? 2 cs).map .ofNat
  | '+' :: cs => (decimal? cs).map .ofNat
  | '-' :: cs => (decimal? cs).map fun n => ⟨n ≠ 0, n, [], none⟩
  | cs => (decimal? cs).map .ofNat

def withoutSign : List Char → List Char
  | [] => []
  | c :: cs => if c = '+' || c = '-' then cs else c :: cs

/-- Nothing, or the exponent of a float; zeros may stand in front of it. -/
def isExponent : List Char → Bool
  | [] => true
  | e :: cs => (e = 'e' || e = 'E') && (digits? 10 (withoutSign cs)).isSome

def isFloat (cs : List Char) : Bool :=
  let isDigit (c : Char) : Bool := isAsciiDigit c || c = '_'
  let cs := withoutSign cs
  let rest := cs.dropWhile isDigit
  cs = ['i', 'n', 'f'] || cs = ['n', 'a', 'n'] ||
    ((decimal? (cs.takeWhile isDigit)).isSome &&
      match rest with
      | '.' :: cs =>
        (digits? 10 (cs.takeWhile isDigit)).isSome && isExponent (cs.dropWhile isDigit)
      | cs => !cs.isEmpty && isExponent cs)

/-- What a word without quotes stands for. No setting is a float or a date. -/
def word? (cs : List Char) : Option Value :=
  if cs = ['t', 'r', 'u', 'e'] then some (.bool true)
  else if cs = ['f', 'a', 'l', 's', 'e'] then some (.bool false)
  else
    match integer? cs with
    | some n => some (.number n)
    | none => if isFloat cs || Date.isDate cs then some .unreadable else none

def isWordChar (c : Char) : Bool :=
  isBare c || c = '+' || c = '.' || c = ':'

/-- The length of a word: one blank may part a date from a time. -/
def wordLength (cs : List Char) : Nat :=
  let n := (cs.takeWhile isWordChar).length
  match cs.drop n with
  | ' ' :: rest =>
    let m := (rest.takeWhile isWordChar).length
    if 0 < m && Date.afterDay? (cs.take n) = some [] then n + 1 + m else n
  | _ => n

def scalar? (cs : List Char) : Option (Value × List Char) :=
  match string? cs with
  | some (s, cs) => some (.text s, cs)
  | none =>
    let n := wordLength cs
    (word? (cs.take n)).map fun v => (v, cs.drop n)

end DeployWizard.Toml
