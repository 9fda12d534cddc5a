import DeployWizard.Json.Record
import DeployWizard.Toml.Scalar
import DeployWizard.Toml.Table

set_option autoImplicit false

namespace DeployWizard.Toml
open Json

/-- Items after the last field of a record count for nothing, and beside a name that is the only key
of a table stands an empty table or array. -/
def spelling : Spelling where
  surplus := true
  isFiller
    | .array [] | .object [] => true
    | _ => false

def isSpace (c : Char) : Bool :=
  c = ' ' || c = '\t'

def skipLines : Bool → List Char → List Char
  | _, [] => []
  | true, c :: cs =>
    if isBreak c cs then skipLines false cs
    else if isPlain c then skipLines true cs
    else c :: cs
  | false, c :: cs =>
    if isSpace c || isBreak c cs then skipLines false cs
    else if c = '#' then skipLines true cs
    else c :: cs

def lineEnd? (cs : List Char) : Option (List Char) :=
  let cs := cs.dropWhile isSpace
  let cs := if cs.head? = some '#' then cs.dropWhile isPlain else cs
  match cs with
  | [] => some []
  | '\n' :: cs => some cs
  | '\r' :: '\n' :: cs => some cs
  | _ => none

def key? (cs : List Char) : Option (String × List Char) :=
  if (cs.head?).any isBare then
    some (String.ofList (cs.takeWhile isBare), cs.dropWhile isBare)
  else line? cs

def keys? : Nat → List Char → Option (List String × List Char)
  | 0, _ => none
  | fuel + 1, cs => do
    let (key, cs) ← key? cs
    match cs.dropWhile isSpace with
    | '.' :: cs => (keys? fuel (cs.dropWhile isSpace)).map fun (keys, cs) => (key :: keys, cs)
    | cs => some ([key], cs)

def maxDepth : Nat := 80

mutual
/-- A value that nests at most so deep, and what follows it. -/
def value? : Nat → Nat → List Char → Option (Value × List Char)
  | 0, _, _ => none
  | fuel + 1, depth, cs =>
    match cs with
    | '[' :: cs => if 0 < depth then items? fuel (depth - 1) [] (skipLines false cs) else none
    | '{' :: cs => if 0 < depth then members? fuel (depth - 1) [] (skipLines false cs) else none
    | cs => scalar? cs

/-- The rest of an array; its items so far are kept in reverse. -/
def items? : Nat → Nat → List Value → List Char → Option (Value × List Char)
  | 0, _, _, _ => none
  | fuel + 1, depth, read, cs =>
    match cs with
    | ']' :: cs => some (.array read.reverse, cs)
    | cs =>
      match value? fuel depth cs with
      | none => none
      | some (v, cs) =>
        match skipLines false cs with
        | ',' :: cs => items? fuel depth (v :: read) (skipLines false cs)
        | ']' :: cs => some (.array (v :: read).reverse, cs)
        | _ => none

def members? : Nat → Nat → Table → List Char → Option (Value × List Char)
  | 0, _, _, _ => none
  | fuel + 1, depth, t, cs =>
    match cs with
    | '}' :: cs => some ((Node.table .header t).toValue, cs)
    | cs =>
      match keys? (fuel + 1) cs with
      | some (keys, '=' :: cs) =>
        match value? fuel depth (cs.dropWhile isSpace) with
        | none => none
        | some (v, cs) =>
          match t.assign v keys with
          | none => none
          | some t =>
            match skipLines false cs with
            | ',' :: cs => members? fuel depth t (skipLines false cs)
            | '}' :: cs => some ((Node.table .header t).toValue, cs)
            | _ => none
      | _ => none
end

/-- A document that is being read: its tables, and the path of the one that is open. -/
structure Document where
  root : Table := []
  path : List String := []

namespace Document

def openTable (d : Document) (next : Bool) (path : List String) : Option Document :=
  match path.getLast? with
  | none => none
  | some key =>
    (d.root.change (if next then Table.openNext key else Table.openOne key) path.dropLast).map
      fun root => { root, path }

def assign (d : Document) (v : Value) (keys : List String) : Option Document :=
  (d.root.change (Table.assign v keys) d.path).map fun root => { d with root }

end Document

def statement? (fuel : Nat) (d : Document) (cs : List Char) : Option (Document × List Char) :=
  match cs with
  | '[' :: '[' :: cs =>
    match keys? fuel (cs.dropWhile isSpace) with
    | some (path, ']' :: ']' :: cs) => (d.openTable true path).map fun d => (d, cs)
    | _ => none
  | '[' :: cs =>
    match keys? fuel (cs.dropWhile isSpace) with
    | some (path, ']' :: cs) => (d.openTable false path).map fun d => (d, cs)
    | _ => none
  | cs =>
    match keys? fuel cs with
    | some (keys, '=' :: cs) => do
      let (v, cs) ← value? fuel maxDepth (cs.dropWhile isSpace)
      (d.assign v keys).map fun d => (d, cs)
    | _ => none

def lines? : Nat → Document → List Char → Option Document
  | 0, _, _ => none
  | fuel + 1, d, cs =>
    match skipLines false cs with
    | [] => some d
    | c :: cs => do
      let (d, cs) ← statement? (2 * (cs.length + 2)) d (c :: cs)
      lines? fuel d (← lineEnd? cs)

def read? (s : String) : Option Value :=
  let cs := s.toList
  let cs := if cs.head? = some '\uFEFF' then cs.tail else cs
  (lines? (cs.length + 1) {} cs).map fun d => (Node.table .header d.root).toValue

end DeployWizard.Toml
