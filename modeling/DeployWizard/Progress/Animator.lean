import DeployWizard.Progress.Ratio

set_option autoImplicit false

namespace DeployWizard.Progress

def frames : Nat := 100

structure Animator where
  source : Float := 0.0
  target : Float := 0.0
  frame : Nat := 0
  shown : Float := 0.0

namespace Animator

def retarget (a : Animator) (ratio : Float) : Animator :=
  { a with source := a.target, target := clamp ratio, frame := 0 }

def valueAt (a : Animator) (frame : Nat) : Float :=
  a.source + (a.target - a.source) / 100.0 * (UInt32.ofNat frame).toFloat

def tick (a : Animator) : Option Float × Animator :=
  if frames ≤ a.frame then (none, a)
  else
    let value := a.valueAt (a.frame + 1)
    -- A full ratio ends the animation and is not given.
    if 1.0 ≤ value then (none, { a with frame := frames, shown := 1.0 })
    else (some value, { a with frame := a.frame + 1, shown := value })

def ticks : Nat → Animator → List (Option Float) × Animator
  | 0, a => ([], a)
  | n + 1, a =>
    let (value, a) := a.tick
    let (values, a) := ticks n a
    (value :: values, a)

end Animator

end DeployWizard.Progress
