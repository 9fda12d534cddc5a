import DeployWizard.Url.Host

set_option autoImplicit false

namespace DeployWizard

structure Url where
  /-- In lower case. -/
  scheme : String
  /-- The path and query, if requests can be sent to the URL. -/
  target : Option String
  deriving DecidableEq

namespace Url
open Text

/-- Blanks and controls around a URL and line breaks inside it count for nothing. -/
def clean (cs : List Char) : List Char :=
  let outer (c : Char) : Bool := c.toNat ≤ 0x20
  ((cs.dropWhile outer).reverse.dropWhile outer).reverse.filter fun c =>
    c ≠ '\t' && c ≠ '\n' && c ≠ '\r'

def isSchemeChar (c : Char) : Bool :=
  isAsciiAlphanumeric c || c = '+' || c = '-' || c = '.'

def splitScheme? (cs : List Char) : Option (String × List Char) :=
  match cs.takeWhile isSchemeChar, cs.dropWhile isSchemeChar with
  | c :: name, ':' :: rest =>
    if isAsciiLetter c then some (String.ofList ((c :: name).map lowerChar), rest) else none
  | _, _ => none

def isWeb (scheme : String) : Bool :=
  ["http", "https", "ws", "wss", "ftp"].contains scheme

def isSlash (c : Char) : Bool :=
  c = '/' || c = '\\'

def endsAuthority (web : Bool) (c : Char) : Bool :=
  c = '/' || c = '?' || c = '#' || (web && c = '\\')

def splitUser (cs : List Char) : Option (List Char) × List Char :=
  let place := (cs.reverse.takeWhile (· ≠ '@')).reverse
  (if cs.contains '@' then some (cs.take (cs.length - place.length - 1)) else none, place)

def namesUser : Option (List Char) → Bool
  | none => false
  | some user => !(user.isEmpty || user = [':'])

def splitPort : Bool → List Char → List Char × Option (List Char)
  | _, [] => ([], none)
  | inside, c :: cs =>
    if c = ':' && !inside then ([], some cs)
    else
      let (host, port) := splitPort (c = '[' || (inside && c ≠ ']')) cs
      (c :: host, port)

def isPort (cs : List Char) : Bool :=
  cs.all isAsciiDigit && cs.foldl (fun n c => n * 10 + (c.toNat - 48)) 0 < 65536

def isWebAuthority (cs : List Char) : Bool :=
  let (host, port) := splitPort false (splitUser cs).2
  Host.isHost host && port.all isPort

/-- The authority of any other URL. With a user or a port there is a host, and also with an `@`
alone unless the URL ends there. -/
def isOtherAuthority (ends : Bool) (cs : List Char) : Bool :=
  let (user, place) := splitUser cs
  let (host, port) := splitPort false place
  Host.isOpaque host && port.all (fun p => isPort (p.takeWhile (· ≠ '\\'))) &&
    !(host.isEmpty && (port.isSome || namesUser user || (user = some [] && !ends)))

/-- A letter and a colon or bar, which may name a drive. -/
def isDrive : List Char → Bool
  | [a, b] => isAsciiLetter a && (b = ':' || b = '|')
  | _ => false

def isFileAuthority (cs : List Char) : Bool :=
  cs.isEmpty || isDrive cs || Host.isHost cs

def keptInQuery (c : Char) : Bool :=
  0x20 < c.toNat && c.toNat < 0x7F && c ≠ '"' && c ≠ '#' && c ≠ '<' && c ≠ '>' && c ≠ '\''

def keptInPath (c : Char) : Bool :=
  0x20 < c.toNat && c.toNat < 0x7F && c ≠ '"' && c ≠ '#' && c ≠ '<' && c ≠ '>' && c ≠ '?' &&
    c ≠ '`' && c ≠ '{' && c ≠ '}'

def afterDot? : List Char → Option (List Char)
  | '.' :: cs => some cs
  | '%' :: '2' :: 'e' :: cs | '%' :: '2' :: 'E' :: cs => some cs
  | _ => none

def isDot (cs : List Char) : Bool :=
  afterDot? cs = some []

def isDoubleDot (cs : List Char) : Bool :=
  (afterDot? cs).any isDot

/-- The segments that are left when two dots take one back; a drive is not taken back. -/
def back : List (List Char) → List (List Char)
  | [] => []
  | s :: ss => if isDrive s then s :: ss else ss

/-- The segments of a path without its dots; the segments so far are kept in reverse. -/
def resolve : List (List Char) → List (List Char) → List (List Char)
  | done, [] => done.reverse
  | done, [last] =>
    if isDoubleDot last then ([] :: back done).reverse
    else if isDot last then ([] :: done).reverse
    else (Percent.encode keptInPath last :: done).reverse
  | done, s :: ss =>
    if isDoubleDot s then resolve (back done) ss
    else if isDot s then resolve done ss
    else resolve (Percent.encode keptInPath s :: done) ss

def targetOf (cs : List Char) : List Char :=
  let cs := cs.takeWhile (· ≠ '#')
  let path := (cs.takeWhile (· ≠ '?')).map fun c => if c = '\\' then '/' else c
  let path := if path.head? = some '/' then path.tail else path
  let query :=
    match cs.dropWhile (· ≠ '?') with
    | [] => []
    | mark :: q => mark :: Percent.encode keptInQuery q
  (resolve [] (fields '/' path)).flatMap ('/' :: ·) ++ query

/-- How long a URL may be that requests are sent to. -/
def maxLength : Nat := 65534

def isReachable (scheme : String) (authority target : List Char) : Bool :=
  let place := (splitUser authority).2
  Host.isReachable (splitPort false place).1 &&
    decide (scheme.length + 3 + place.length + target.length ≤ maxLength)

def parse? (s : String) : Option Url := do
  let (scheme, rest) ← splitScheme? (clean s.toList)
  if isWeb scheme then
    let rest := rest.dropWhile isSlash
    let authority := rest.takeWhile fun c => !endsAuthority true c
    if isWebAuthority authority then
      let target := targetOf (rest.dropWhile fun c => !endsAuthority true c)
      let sent := isReachable scheme authority target
      some ⟨scheme, if sent then some (String.ofList target) else none⟩
    else none
  else if scheme = "file" then
    match rest with
    | a :: b :: rest =>
      if isSlash a && isSlash b && !isFileAuthority (rest.takeWhile fun c => !endsAuthority true c)
      then none
      else some ⟨scheme, none⟩
    | _ => some ⟨scheme, none⟩
  else
    match rest with
    | '/' :: '/' :: rest =>
      let authority := rest.takeWhile fun c => !endsAuthority false c
      if isOtherAuthority (authority.length = rest.length) authority then some ⟨scheme, none⟩
      else none
    | _ => some ⟨scheme, none⟩

end Url

end DeployWizard
