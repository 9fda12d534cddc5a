import DeployWizard.Progress.Animator

set_option autoImplicit false

namespace DeployWizard.Progress

structure Line where
  animator : Animator := {}
  last : Option UInt32 := none

namespace Line

def retarget (l : Line) (ratio : Float) : Line :=
  { l with animator := l.animator.retarget ratio }

def show? (l : Line) (value : Float) : Option UInt32 × Line :=
  let p := percent value
  if l.last = some p then (none, l) else (some p, { l with last := some p })

def frame (l : Line) : Option UInt32 × Line :=
  let l := { l with animator := l.animator.tick.2 }
  l.show? l.animator.shown

def settle (l : Line) : Option UInt32 × Line :=
  -- The animator is left where it is, and the next frame goes on from there.
  l.show? l.animator.target

def framesFrom : Nat → Line → List (Option UInt32) × Line
  | 0, l => ([], l)
  | n + 1, l =>
    let (p, l) := l.frame
    let (ps, l) := framesFrom n l
    (p :: ps, l)

end Line

/-- The time between two frames in nanoseconds, for a polling interval in milliseconds: a
hundredth of it, but no less than a millisecond. -/
def frameInterval (poll : UInt64) : Nat :=
  max (poll.toNat * 1000000 / frames) 1000000

end DeployWizard.Progress
