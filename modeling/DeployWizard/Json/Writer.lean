import DeployWizard.Json.Value

set_option autoImplicit false

namespace DeployWizard.Json
open Text

def escapeChar (c : Char) : List Char :=
  if c = '"' then ['\\', '"']
  else if c = '\\' then ['\\', '\\']
  else if c = '\x08' then ['\\', 'b']
  else if c = '\x0c' then ['\\', 'f']
  else if c = '\n' then ['\\', 'n']
  else if c = '\r' then ['\\', 'r']
  else if c = '\t' then ['\\', 't']
  else if c.toNat < 0x20 then
    ['\\', 'u', '0', '0', lowerHex (c.toNat / 16), lowerHex (c.toNat % 16)]
  else [c]

def quoted (s : String) : List Char :=
  '"' :: s.toList.flatMap escapeChar ++ ['"']

namespace Number

def exponentChars : Option Int → List Char
  | none => []
  | some e => if e < 0 then 'e' :: '-' :: decimal e.natAbs else 'e' :: decimal e.natAbs

def write (n : Number) : List Char :=
  (if n.negative then ['-'] else []) ++ decimal n.whole ++
    (if n.fraction.isEmpty then [] else '.' :: n.fraction.map lowerHex) ++
    exponentChars n.exponent

end Number

namespace Value

mutual
def write : Value → List Char
  | .null => ['n', 'u', 'l', 'l']
  | .bool true => ['t', 'r', 'u', 'e']
  | .bool false => ['f', 'a', 'l', 's', 'e']
  | .number n => n.write
  | .text s => quoted s
  | .unreadable => ['"', '\\', 'u', 'd', '8', '0', '0', '"']
  | .array [] => ['[', ']']
  | .array (v :: vs) => '[' :: (write v ++ writeItems vs)
  | .object [] => ['{', '}']
  | .object ((k, v) :: ms) => '{' :: (quoted k ++ ':' :: (write v ++ writeMembers ms))

def writeItems : List Value → List Char
  | [] => [']']
  | v :: vs => ',' :: (write v ++ writeItems vs)

def writeMembers : List (String × Value) → List Char
  | [] => ['}']
  | (k, v) :: ms => ',' :: (quoted k ++ ':' :: (write v ++ writeMembers ms))
end

def render (v : Value) : String :=
  String.ofList v.write

end Value

end DeployWizard.Json
