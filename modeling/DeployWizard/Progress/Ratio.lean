set_option autoImplicit false

namespace DeployWizard.Progress

def clamp (x : Float) : Float :=
  if x < 0.0 then 0.0 else if 1.0 < x then 1.0 else x

/-- The nearest natural number of a non-negative one, a half upwards; 0 for no number. The part
after the point is exact, so the comparison with a half is. -/
def nearest (x : Float) : UInt32 :=
  let n := x.toUInt32
  if 0.5 ≤ x - n.toFloat then n + 1 else n

/-- The part of a task that is finished, in whole hundredths; a task without steps is at 0. -/
def ratio (finished total : UInt32) : Float :=
  if total = 0 then 0.0
  else (nearest (clamp (finished.toFloat / total.toFloat) * 100.0)).toFloat / 100.0

def percent (x : Float) : UInt32 :=
  nearest (clamp x * 100.0)

end DeployWizard.Progress
