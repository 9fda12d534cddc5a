import DeployWizard.Json.Value

set_option autoImplicit false

/-!
The tokens of a JSON text. The text is read once, character by character; what has been read so far
is a `Scan`, so reading a text in two parts is reading it at once.
-/
namespace DeployWizard.Json
open Text

inductive Token where
  | openArray
  | closeArray
  | openObject
  | closeObject
  | comma
  | colon
  | null
  | bool (b : Bool)
  | number (n : Number)
  | text (s : String)
  | unpaired
  deriving DecidableEq

/-- A character of a string literal, or half of a surrogate pair given by an escape. -/
inductive Piece where
  | char (c : Char)
  | half (code : Nat)
  deriving DecidableEq

namespace Piece

def isHigh (n : Nat) : Bool := 0xD800 ≤ n && n < 0xDC00

def isLow (n : Nat) : Bool := 0xDC00 ≤ n && n < 0xE000

def ofCode (n : Nat) : Piece :=
  if isHigh n || isLow n then .half n else .char (Char.ofNat n)

/-- The characters spelled by the pieces; none if a half stands alone. -/
def join : List Piece → Option (List Char)
  | [] => some []
  | .char c :: ps => (join ps).map (c :: ·)
  | .half hi :: .half lo :: ps =>
    if isHigh hi && isLow lo then
      (join ps).map (Char.ofNat (0x10000 + (hi - 0xD800) * 0x400 + (lo - 0xDC00)) :: ·)
    else none
  | .half _ :: _ => none

def token (ps : List Piece) : Token :=
  match join ps with
  | some cs => .text (String.ofList cs)
  | none => .unpaired

end Piece

namespace Number

def valueOf (cs : List Char) : Nat :=
  cs.foldl (fun n c => n * 10 + (c.toNat - 48)) 0

def exponentOf? : List Char → Option (Option Int)
  | [] => some none
  | e :: cs =>
    if e = 'e' || e = 'E' then
      let (minus, ds) :=
        match cs with
        | '-' :: r => (true, r)
        | '+' :: r => (false, r)
        | r => (false, r)
      if ds.isEmpty || !ds.all isAsciiDigit then none
      else some (some (if minus then -(valueOf ds : Int) else valueOf ds))
    else none

/-- A number literal: no leading zero, digits after a point and in an exponent. -/
def ofChars? (cs : List Char) : Option Number :=
  let (minus, cs) :=
    match cs with
    | '-' :: r => (true, r)
    | r => (false, r)
  let whole := cs.takeWhile isAsciiDigit
  let rest := cs.dropWhile isAsciiDigit
  if whole.isEmpty || (whole.head? = some '0' && 1 < whole.length) then none
  else
    match rest with
    | '.' :: r =>
      let fraction := r.takeWhile isAsciiDigit
      if fraction.isEmpty then none
      else
        (exponentOf? (r.dropWhile isAsciiDigit)).map fun e =>
          ⟨minus, valueOf whole, fraction.map fun c => c.toNat - 48, e⟩
    | r => (exponentOf? r).map fun e => ⟨minus, valueOf whole, [], e⟩

end Number

/-- Where the next character belongs; what a token has so far is kept in reverse. -/
inductive Mode where
  | between
  | word (read : List Char)
  | number (read : List Char)
  | text (read : List Piece)
  | escape (read : List Piece)
  | code (read : List Piece) (left value : Nat)
  deriving DecidableEq

structure Scan where
  mode : Mode
  tokens : List Token
  deriving DecidableEq

namespace Scan

def start : Scan := ⟨.between, []⟩

def isSpace (c : Char) : Bool :=
  c = ' ' || c = '\n' || c = '\t' || c = '\r'

def isNumberChar (c : Char) : Bool :=
  isAsciiDigit c || c = '-' || c = '+' || c = '.' || c = 'e' || c = 'E'

def wordToken? (cs : List Char) : Option Token :=
  if cs = ['n', 'u', 'l', 'l'] then some .null
  else if cs = ['t', 'r', 'u', 'e'] then some (.bool true)
  else if cs = ['f', 'a', 'l', 's', 'e'] then some (.bool false)
  else none

def escaped? (c : Char) : Option Char :=
  if c = '"' || c = '\\' || c = '/' then some c
  else if c = 'b' then some '\x08'
  else if c = 'f' then some '\x0c'
  else if c = 'n' then some '\n'
  else if c = 'r' then some '\r'
  else if c = 't' then some '\t'
  else none

def feedBetween (tokens : List Token) (c : Char) : Option Scan :=
  if c = '[' then some ⟨.between, .openArray :: tokens⟩
  else if c = ']' then some ⟨.between, .closeArray :: tokens⟩
  else if c = '{' then some ⟨.between, .openObject :: tokens⟩
  else if c = '}' then some ⟨.between, .closeObject :: tokens⟩
  else if c = ',' then some ⟨.between, .comma :: tokens⟩
  else if c = ':' then some ⟨.between, .colon :: tokens⟩
  else if c = '"' then some ⟨.text [], tokens⟩
  else if isSpace c then some ⟨.between, tokens⟩
  else if isAsciiDigit c || c = '-' then some ⟨.number [c], tokens⟩
  else if isAsciiLetter c then some ⟨.word [c], tokens⟩
  else none

def endWord (read : List Char) (tokens : List Token) : Option (List Token) :=
  (wordToken? read.reverse).map (· :: tokens)

def endNumber (read : List Char) (tokens : List Token) : Option (List Token) :=
  (Number.ofChars? read.reverse).map fun n => .number n :: tokens

def feed (s : Scan) (c : Char) : Option Scan :=
  match s.mode with
  | .between => feedBetween s.tokens c
  | .word read =>
    if isAsciiLetter c then some ⟨.word (c :: read), s.tokens⟩
    else (endWord read s.tokens).bind fun ts => feedBetween ts c
  | .number read =>
    if isNumberChar c then some ⟨.number (c :: read), s.tokens⟩
    else (endNumber read s.tokens).bind fun ts => feedBetween ts c
  | .text read =>
    if c = '"' then some ⟨.between, Piece.token read.reverse :: s.tokens⟩
    else if c = '\\' then some ⟨.escape read, s.tokens⟩
    else if c.toNat < 0x20 then none
    else some ⟨.text (.char c :: read), s.tokens⟩
  | .escape read =>
    if c = 'u' then some ⟨.code read 4 0, s.tokens⟩
    else (escaped? c).map fun e => ⟨.text (.char e :: read), s.tokens⟩
  | .code read left value =>
    (hexValue? c).map fun d =>
      if left ≤ 1 then ⟨.text (Piece.ofCode (value * 16 + d) :: read), s.tokens⟩
      else ⟨.code read (left - 1) (value * 16 + d), s.tokens⟩

def feedAll : Scan → List Char → Option Scan
  | s, [] => some s
  | s, c :: cs => (s.feed c).bind fun t => feedAll t cs

theorem feedAll_append (s : Scan) (xs ys : List Char) :
    s.feedAll (xs ++ ys) = (s.feedAll xs).bind fun t => t.feedAll ys := by
  induction xs generalizing s with
  | nil => rfl
  | cons x xs ih =>
    show (s.feed x).bind _ = ((s.feed x).bind _).bind _
    cases s.feed x with
    | none => rfl
    | some t => exact ih t

/-- The tokens in order, once the text has ended outside a string literal. -/
def finish (s : Scan) : Option (List Token) :=
  match s.mode with
  | .between => some s.tokens.reverse
  | .word read => (endWord read s.tokens).map List.reverse
  | .number read => (endNumber read s.tokens).map List.reverse
  | _ => none

end Scan

def tokens? (cs : List Char) : Option (List Token) :=
  (Scan.start.feedAll cs).bind Scan.finish

end DeployWizard.Json
