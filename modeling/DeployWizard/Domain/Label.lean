import DeployWizard.Domain.Mapping
import DeployWizard.Domain.Punycode
import DeployWizard.Text.Composition
import DeployWizard.Text.Direction
import DeployWizard.Text.Joining
import DeployWizard.Text.Mark

set_option autoImplicit false

namespace DeployWizard.Domain
open Text

def isAscii (c : Char) : Bool :=
  c.toNat < 0x80

def joiner : Char := '\u200D'
def nonJoiner : Char := '\u200C'

def joinsNext (c : Char) : Bool :=
  Joining.ofChar c = .withNext || Joining.ofChar c = .withBoth

def joinsPrevious (c : Char) : Bool :=
  Joining.ofChar c = .withPrevious || Joining.ofChar c = .withBoth

def nearest? (cs : List Char) : Option Char :=
  cs.find? fun c => Joining.ofChar c ≠ .transparent

/-- Whether both joiners stand only after a sign that joins consonants, or, to keep letters apart,
between letters that would join. What stands before is kept in reverse. -/
def areJoinersPlaced : List Char → List Char → Bool
  | _, [] => true
  | before, c :: after =>
    let joined := before.head?.any (combiningClass · = viramaClass)
    let parted := (nearest? before).any joinsNext && (nearest? after).any joinsPrevious
    (c ≠ joiner || joined) && (c ≠ nonJoiner || joined || parted) &&
      areJoinersPlaced (c :: before) after

def isUsable (cs : List Char) : Bool :=
  !cs.head?.any isMark && areJoinersPlaced [] cs

def isSettled (cs : List Char) : Bool :=
  imageOfAll? cs = some cs && Composition.normalize cs = cs

def codeMark : List Char := ['x', 'n', '-', '-']

def maxLength : Nat := 1000
def maxCodeLength : Nat := 2000

def labelOf? (cs : List Char) : Option (List Char) :=
  if codeMark.isPrefixOf cs then
    let code := cs.drop codeMark.length
    if !code.all isAscii || code.isEmpty || code.getLast? = some '-' ||
        maxCodeLength < code.length then
      none
    else
      (Punycode.decode? code).filter fun label =>
        isSettled label && isUsable label && !codeMark.isPrefixOf label
  else if cs.all isAscii || (isUsable cs && cs.length ≤ maxLength) then some cs
  else none

def isRightward (cs : List Char) : Bool :=
  cs.any fun c => Direction.ofChar c = .right || Direction.ofChar c = .arabicDigit

/-- Whether a label can be told from its neighbours when directions mix. It begins with a letter,
keeps to its direction and, marks apart, ends with a letter of that direction or a digit. -/
def isOrdered (cs : List Char) : Bool :=
  let ds := cs.map Direction.ofChar
  let last := (ds.reverse.find? (· ≠ .mark)).getD .mark
  match ds with
  | [] => true
  | .right :: _ =>
    !ds.contains .left && !(ds.contains .digit && ds.contains .arabicDigit) &&
      (last = .right || last = .digit || last = .arabicDigit)
  | .left :: _ =>
    !ds.contains .right && !ds.contains .arabicDigit && (last = .left || last = .digit)
  | _ => false

end DeployWizard.Domain
