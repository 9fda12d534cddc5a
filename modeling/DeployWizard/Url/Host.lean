import DeployWizard.Domain.Name
import DeployWizard.Text.Percent

set_option autoImplicit false

namespace DeployWizard.Host
open Text

/-- A part of an IPv4 address. The outer option is for parts that are no number, the inner one for
numbers too great for any address. -/
def part? (cs : List Char) : Option (Option Nat) :=
  let inBase (base : Nat) (ds : List Char) : Option (Option Nat) :=
    (ds.mapM fun c => (hexValue? c).filter (· < base)).map fun vs =>
      let n := vs.foldl (fun n d => n * base + d) 0
      if n < UInt32.size then some n else none
  match cs with
  | [] => none
  | '0' :: 'x' :: ds | '0' :: 'X' :: ds => inBase 16 ds
  | '0' :: d :: ds => inBase 8 (d :: ds)
  | ds => inBase 10 ds

def parts (cs : List Char) : List (List Char) :=
  let ps := fields '.' cs
  if 1 < ps.length && ps.getLast? = some [] then ps.dropLast else ps

/-- A host whose last part is a number has to be an IPv4 address. -/
def endsInNumber (cs : List Char) : Bool :=
  match (parts cs).getLast? with
  | some p => (!p.isEmpty && p.all isAsciiDigit) || (part? p).isSome
  | none => false

/-- At most four numbers: all but the last below 256, the last one in the bytes that are left. -/
def isIPv4 (cs : List Char) : Bool :=
  let ps := parts cs
  match ps.mapM fun p => (part? p).join with
  | some ns =>
    ns.length ≤ 4 && ns.dropLast.all (· ≤ 255) && ns.getLast?.all (· < Nat.pow 256 (5 - ns.length))
  | none => false

def isOctet (cs : List Char) : Bool :=
  !cs.isEmpty && cs.length ≤ 3 && cs.all isAsciiDigit && (cs.length = 1 || cs.head? ≠ some '0') &&
    cs.foldl (fun n c => n * 10 + (c.toNat - 48)) 0 ≤ 255

def isQuad (cs : List Char) : Bool :=
  let ps := fields '.' cs
  ps.length = 4 && ps.all isOctet

def isGroup (cs : List Char) : Bool :=
  1 ≤ cs.length && cs.length ≤ 4 && cs.all fun c => (hexValue? c).isSome

/-- The number of sixteen-bit groups that colon-separated texts stand for; the last text of all may
be a dotted quad. -/
def groups? (last : Bool) : List (List Char) → Option Nat
  | [] => some 0
  | [g] => if isGroup g then some 1 else if last && isQuad g then some 2 else none
  | g :: gs => if isGroup g then (groups? last gs).map (· + 1) else none

def atDoubleColon? : List Char → Option (List Char × List Char)
  | ':' :: ':' :: cs => some ([], cs)
  | c :: cs => (atDoubleColon? cs).map fun (before, after) => (c :: before, after)
  | [] => none

def colonFields (cs : List Char) : List (List Char) :=
  if cs.isEmpty then [] else fields ':' cs

def isIPv6 (cs : List Char) : Bool :=
  match atDoubleColon? cs with
  | none => groups? true (fields ':' cs) = some 8
  | some (before, after) =>
    match groups? false (colonFields before), groups? true (colonFields after) with
    | some m, some n => m + n ≤ 7
    | _, _ => false

def bracketed? : List Char → Option (Option (List Char))
  | '[' :: cs => some (if cs.getLast? = some ']' then some cs.dropLast else none)
  | _ => none

def name? (cs : List Char) : Option (List Char) :=
  (Percent.textOf? (Percent.decode cs)).bind Domain.read?

def isHost (cs : List Char) : Bool :=
  match bracketed? cs with
  | some inner => inner.any isIPv6
  | none =>
    match name? cs with
    | some name => !name.isEmpty && (!endsInNumber name || isIPv4 name)
    | none => false

/-- Whether requests can be sent to a host. Some signs may stand in a name but not in a request. -/
def isReachable (cs : List Char) : Bool :=
  (name? cs).all fun name => !name.any ['"', '`', '{', '}'].contains

/-- A host that only has to be read: a name is taken as it is, and may be empty. -/
def isOpaque (cs : List Char) : Bool :=
  match bracketed? cs with
  | some inner => inner.any isIPv6
  | none => !cs.any fun c => c = '\x00' || c = ' ' || Domain.separators.contains c

end DeployWizard.Host
