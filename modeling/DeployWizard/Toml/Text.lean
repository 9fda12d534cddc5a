import DeployWizard.Text.Digit

set_option autoImplicit false

/-!
String literals of a TOML document: basic ones with escapes, literal ones without, each on one line
or on many. Line breaks inside a literal stay as they are written.
-/
namespace DeployWizard.Toml
open Text

def isPlain (c : Char) : Bool :=
  c = '\t' || (0x20 ≤ c.toNat && c.toNat ≠ 0x7F)

def escaped? (c : Char) : Option Char :=
  if c = '"' || c = '\\' then some c
  else if c = 'b' then some '\x08'
  else if c = 'f' then some '\x0c'
  else if c = 'n' then some '\n'
  else if c = 'r' then some '\r'
  else if c = 't' then some '\t'
  else if c = 'e' then some '\x1b'
  else none

def codeLength? (c : Char) : Option Nat :=
  if c = 'x' then some 2 else if c = 'u' then some 4 else if c = 'U' then some 8 else none

def charOf? (n : Nat) : Option Char :=
  if n < 0xD800 || (0xE000 ≤ n && n < 0x110000) then some (Char.ofNat n) else none

inductive Part where
  | plain
  | escape
  | code (left value : Nat)
  deriving DecidableEq

/-- The text up to the closing quote, and what follows it. The text so far is kept in reverse. -/
def basicFrom : Part → List Char → List Char → Option (List Char × List Char)
  | _, _, [] => none
  | .plain, read, c :: cs =>
    if c = '"' then some (read.reverse, cs)
    else if c = '\\' then basicFrom .escape read cs
    else if isPlain c then basicFrom .plain (c :: read) cs
    else none
  | .escape, read, c :: cs =>
    match codeLength? c with
    | some n => basicFrom (.code n 0) read cs
    | none =>
      match escaped? c with
      | some e => basicFrom .plain (e :: read) cs
      | none => none
  | .code left value, read, c :: cs =>
    match hexValue? c with
    | none => none
    | some d =>
      if 1 < left then basicFrom (.code (left - 1) (value * 16 + d)) read cs
      else
        match charOf? (value * 16 + d) with
        | some e => basicFrom .plain (e :: read) cs
        | none => none

def literalFrom : List Char → List Char → Option (List Char × List Char)
  | _, [] => none
  | read, c :: cs =>
    if c = '\'' then some (read.reverse, cs)
    else if isPlain c then literalFrom (c :: read) cs
    else none

inductive LinePart where
  | plain
  | escape
  | code (left value : Nat)
  /-- After a backslash that ends a line: blanks and line breaks are skipped. Until a line break has
  come there are only blanks. -/
  | skip (broken : Bool)
  deriving DecidableEq

/-- Up to two more quotes at the end belong to the text. -/
def closing (quote : Char) (read rest : List Char) : List Char × List Char :=
  let extra := ((rest.take 2).takeWhile (· = quote)).length
  (read.reverse ++ List.replicate extra quote, rest.drop extra)

def opensTwo (quote : Char) : List Char → Option (List Char)
  | a :: b :: rest => if a = quote && b = quote then some rest else none
  | _ => none

def isBreak (c : Char) (cs : List Char) : Bool :=
  c = '\n' || (c = '\r' && cs.head? = some '\n')

def basicLines : LinePart → List Char → List Char → Option (List Char × List Char)
  | _, _, [] => none
  | part, read, c :: cs =>
    let part :=
      match part with
      | .skip true => if c = ' ' || c = '\t' || isBreak c cs then part else .plain
      | p => p
    match part with
    | .plain =>
      if c = '"' then
        match opensTwo '"' cs with
        | some rest => some (closing '"' read rest)
        | none => basicLines .plain ('"' :: read) cs
      else if c = '\\' then basicLines .escape read cs
      else if isBreak c cs || isPlain c then basicLines .plain (c :: read) cs
      else none
    | .escape =>
      if c = ' ' || c = '\t' then basicLines (.skip false) read cs
      else if c = '\n' then basicLines (.skip true) read cs
      else if isBreak c cs then basicLines (.skip false) read cs
      else
        match codeLength? c with
        | some n => basicLines (.code n 0) read cs
        | none =>
          match escaped? c with
          | some e => basicLines .plain (e :: read) cs
          | none => none
    | .code left value =>
      match hexValue? c with
      | none => none
      | some d =>
        if 1 < left then basicLines (.code (left - 1) (value * 16 + d)) read cs
        else
          match charOf? (value * 16 + d) with
          | some e => basicLines .plain (e :: read) cs
          | none => none
    | .skip broken =>
      if c = ' ' || c = '\t' then basicLines (.skip broken) read cs
      else if c = '\n' then basicLines (.skip true) read cs
      else if isBreak c cs then basicLines (.skip broken) read cs
      else none

def literalLines : List Char → List Char → Option (List Char × List Char)
  | _, [] => none
  | read, c :: cs =>
    if c = '\'' then
      match opensTwo '\'' cs with
      | some rest => some (closing '\'' read rest)
      | none => literalLines ('\'' :: read) cs
    else if isBreak c cs || isPlain c then literalLines (c :: read) cs
    else none

def dropBreak : List Char → List Char
  | '\n' :: cs => cs
  | '\r' :: '\n' :: cs => cs
  | cs => cs

def line? : List Char → Option (String × List Char)
  | '"' :: cs => (basicFrom .plain [] cs).map fun (s, r) => (String.ofList s, r)
  | '\'' :: cs => (literalFrom [] cs).map fun (s, r) => (String.ofList s, r)
  | _ => none

def string? : List Char → Option (String × List Char)
  | '"' :: '"' :: '"' :: cs =>
    (basicLines .plain [] (dropBreak cs)).map fun (s, r) => (String.ofList s, r)
  | '\'' :: '\'' :: '\'' :: cs =>
    (literalLines [] (dropBreak cs)).map fun (s, r) => (String.ofList s, r)
  | cs => line? cs

end DeployWizard.Toml
