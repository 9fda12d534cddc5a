import DeployWizard.Domain.Label
import DeployWizard.Text.Blank

set_option autoImplicit false

namespace DeployWizard.Domain
open Text

def separators : List Char :=
  ['#', '/', ':', '<', '>', '?', '@', '[', '\\', ']', '^', '|']

def isForbidden (c : Char) : Bool :=
  c.toNat ≤ 0x20 || c = '%' || c = '\x7f' || separators.contains c

def isPlain (name : List Char) : Bool :=
  name.all isAscii && (fields '.' name).all fun label => !codeMark.isPrefixOf label

/-- The name that a text stands for; it may be empty. A plain name is the text in lower case. -/
def read? (cs : List Char) : Option (List Char) := do
  let lower := cs.map lowerChar
  if isPlain lower then
    if lower.any isForbidden then none else some lower
  else
    let name := Composition.normalize (← imageOfAll? cs)
    let labels ← (fields '.' name).mapM labelOf?
    if name.any isForbidden || (labels.any isRightward && !labels.all isOrdered) then none
    else some name

end DeployWizard.Domain
