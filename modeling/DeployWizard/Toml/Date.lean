import DeployWizard.Text.Digit

set_option autoImplicit false

namespace DeployWizard.Toml.Date
open Text

def number? (width : Nat) (cs : List Char) : Option (Nat × List Char) :=
  let ds := cs.take width
  if ds.length = width && ds.all isAsciiDigit then
    some (ds.foldl (fun n c => n * 10 + (c.toNat - 48)) 0, cs.drop width)
  else none

def skip? (c : Char) : List Char → Option (List Char)
  | [] => none
  | d :: cs => if d = c then some cs else none

/-- Every fourth year has a day more, but of the full centuries only every fourth. -/
def isLeap (year : Nat) : Bool :=
  year % 4 = 0 && (year % 100 ≠ 0 || year % 400 = 0)

def daysIn (year month : Nat) : Nat :=
  if month = 2 then if isLeap year then 29 else 28
  else if month = 4 || month = 6 || month = 9 || month = 11 then 30
  else 31

def afterDay? (cs : List Char) : Option (List Char) := do
  let (year, cs) ← number? 4 cs
  let (month, cs) ← number? 2 (← skip? '-' cs)
  let (day, cs) ← number? 2 (← skip? '-' cs)
  if 1 ≤ month && month ≤ 12 && 1 ≤ day && day ≤ daysIn year month then some cs else none

def afterMinutes? (cs : List Char) : Option (List Char) := do
  let (hour, cs) ← number? 2 cs
  let (minute, cs) ← number? 2 (← skip? ':' cs)
  if hour ≤ 23 && minute ≤ 59 then some cs else none

def afterFraction? : List Char → Option (List Char)
  | '.' :: cs => if (cs.head?).any isAsciiDigit then some (cs.dropWhile isAsciiDigit) else none
  | cs => some cs

/-- What follows a time. Seconds may be missing, and one minute may have 61. -/
def afterTime? (cs : List Char) : Option (List Char) := do
  match ← afterMinutes? cs with
  | ':' :: cs =>
    let (second, cs) ← number? 2 cs
    if second ≤ 60 then afterFraction? cs else none
  | cs => some cs

def isOffset : List Char → Bool
  | [] => true
  | c :: cs =>
    ((c = 'Z' || c = 'z') && cs.isEmpty) ||
      ((c = '+' || c = '-') && afterMinutes? cs = some [])

/-- A blank or a letter parts the date from the time. -/
def isSeparator (c : Char) : Bool :=
  c = 'T' || c = 't' || c = ' '

def isDate (cs : List Char) : Bool :=
  match afterDay? cs with
  | some [] => true
  | some (c :: cs) => isSeparator c && (afterTime? cs).any isOffset
  | none => afterTime? cs = some []

end DeployWizard.Toml.Date
