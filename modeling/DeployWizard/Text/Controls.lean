set_option autoImplicit false

/-!
Texts for a terminal, and what is left of them without the sequences that control it. A sequence
begins with an escape character; line breaks and tabs end it and are kept, other controls are
dropped.
-/
namespace DeployWizard.Text.Controls

inductive Part where
  | start
  | parameters
  | intermediate
  deriving DecidableEq

def Part.next? (p : Part) (c : Char) : Option Part :=
  if c.toNat < 0x30 then some .intermediate
  else if p = .intermediate || (p = .parameters && 0x3C ≤ c.toNat) then none
  else some .parameters

inductive Mode where
  | plain
  | escape (more : Bool)
  | sequence (p : Part)
  | malformed
  | preamble (p : Part)
  | hidden
  | command
  deriving DecidableEq

def isLayout (c : Char) : Bool :=
  c = '\t' || c = '\n' || c = '\x0c' || c = '\r'

def isGraphic (c : Char) : Bool :=
  0x20 ≤ c.toNat && c.toNat < 0x7F

/-- Whether a byte of the character is the terminator of hidden texts. -/
def isTerminator (c : Char) : Bool :=
  (String.utf8EncodeChar c).contains 0x9C

def opened (c : Char) : Mode :=
  if c = '[' then .sequence .start
  else if c = 'P' then .preamble .start
  else if c = ']' then .command
  else if c = 'X' || c = '^' || c = '_' then .hidden
  else .plain

def feed (m : Mode) (c : Char) : Mode × Bool :=
  if c = '\x18' || c = '\x1a' then (.plain, false)
  else if c = '\x1b' then (.escape false, false)
  else
    match m with
    | .plain => (.plain, isLayout c || (0x20 ≤ c.toNat && c ≠ '\x7f'))
    | .escape more =>
      if isLayout c then (.plain, true)
      else if !isGraphic c then (m, false)
      else if c.toNat < 0x30 then (.escape true, false)
      else (if more then .plain else opened c, false)
    | .sequence p =>
      if isLayout c then (.plain, true)
      else if !isGraphic c then (m, false)
      else if c.toNat < 0x40 then ((p.next? c).elim .malformed .sequence, false)
      else (.plain, false)
    | .malformed =>
      if isLayout c then (.plain, true)
      else (if isGraphic c && 0x40 ≤ c.toNat then .plain else m, false)
    | .preamble p =>
      if !isGraphic c then (m, false)
      else if c.toNat < 0x40 then ((p.next? c).elim .hidden .preamble, false)
      else (.hidden, false)
    | .hidden => (if isTerminator c then .plain else m, false)
    | .command => (if c = '\x07' then .plain else m, false)

def stripFrom : Mode → List Char → List Char
  | _, [] => []
  | m, c :: cs =>
    let (m, kept) := feed m c
    if kept then c :: stripFrom m cs else stripFrom m cs

def strip (s : String) : String :=
  String.ofList (stripFrom .plain s.toList)

end DeployWizard.Text.Controls
