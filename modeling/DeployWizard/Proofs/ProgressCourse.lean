import DeployWizard.Progress.Line
import Mathlib.Order.MinMax

set_option autoImplicit false

namespace DeployWizard.Progress

inductive Call where
  | retarget (ratio : Float)
  | frame
  | settle

/-- What an animation moves between, and the frames since it started. -/
structure Course where
  source : Float := 0.0
  target : Float := 0.0
  elapsed : Nat := 0

namespace Course
variable (c : Course)

def after : Call → Course
  | .retarget ratio => { source := c.target, target := clamp ratio }
  | .frame => { c with elapsed := c.elapsed + 1 }
  | .settle => c

def valueAt (frame : Nat) : Float :=
  c.source + (c.target - c.source) / 100.0 * (UInt32.ofNat frame).toFloat

def reachesOne (frame : Nat) : Bool :=
  (List.range frame).any fun i => 1.0 ≤ c.valueAt (i + 1)

/-- The frames that are made or left out by then. A value that reaches 1 leaves out the rest. -/
def done (frame : Nat) : Nat :=
  if c.reachesOne (min frame frames) then frames else min frame frames

def shown (frame : Nat) : Float :=
  if c.reachesOne (min frame frames) then 1.0 else c.valueAt (min frame frames)

theorem reachesOne_succ (frame : Nat) :
    c.reachesOne (frame + 1) = (c.reachesOne frame || decide (1.0 ≤ c.valueAt (frame + 1))) := by
  simp [reachesOne, List.range_succ]

variable {c} {n : Nat}

theorem reachesOne_mono {m : Nat} (hle : m ≤ n) (h : c.reachesOne m = true) :
    c.reachesOne n = true := by
  simp only [reachesOne, List.any_eq_true, List.mem_range] at h ⊢
  obtain ⟨i, hi, hone⟩ := h
  exact ⟨i, hi.trans_le hle, hone⟩

theorem shown_of_frames_le (h : frames ≤ n) : c.shown n = c.shown frames := by
  simp [shown, h]

theorem done_eq_frames_iff :
    c.done n = frames ↔ c.reachesOne (min n frames) = true ∨ frames ≤ n := by
  unfold done
  split_ifs with hone
  · exact iff_of_true rfl (Or.inl hone)
  · rw [min_eq_right_iff, or_iff_right hone]

theorem done_succ_of_ended (h : c.done n = frames) : c.done (n + 1) = frames := by
  rw [done_eq_frames_iff] at h ⊢
  refine h.imp (reachesOne_mono ?_) fun hle => hle.trans (Nat.le_succ n)
  exact min_le_min_right frames (Nat.le_succ n)

theorem shown_succ_of_ended (h : c.done n = frames) : c.shown (n + 1) = c.shown n := by
  obtain hone | hle := done_eq_frames_iff.1 h
  · have hnext := reachesOne_mono (min_le_min_right frames (Nat.le_succ n)) hone
    rw [shown, shown, if_pos hone, if_pos hnext]
  · rw [shown_of_frames_le hle, shown_of_frames_le (hle.trans (Nat.le_succ n))]

theorem succ_of_running (h : c.done n ≠ frames) :
    c.done n = n ∧
      c.done (n + 1) = (if 1.0 ≤ c.valueAt (n + 1) then frames else n + 1) ∧
      c.shown (n + 1) = if 1.0 ≤ c.valueAt (n + 1) then 1.0 else c.valueAt (n + 1) := by
  rw [Ne, done_eq_frames_iff, not_or, Nat.not_le] at h
  obtain ⟨hone, hlt⟩ := h
  have hnow : min n frames = n := min_eq_left hlt.le
  have hnext : min (n + 1) frames = n + 1 := min_eq_left hlt
  rw [hnow] at hone
  have hreach : c.reachesOne (n + 1) = true ↔ 1.0 ≤ c.valueAt (n + 1) := by
    rw [reachesOne_succ, Bool.or_eq_true, or_iff_right hone, decide_eq_true_eq]
  refine ⟨?_, ?_, ?_⟩
  · rw [done, hnow, if_neg hone]
  · simp only [done, hnext, hreach]
  · simp only [shown, hnext, hreach]

end Course

def course (calls : List Call) : Course :=
  calls.foldl Course.after {}

/-- An animator that stands where a course says. -/
structure Animator.Follows (a : Animator) (c : Course) : Prop where
  source : a.source = c.source
  target : a.target = c.target
  frame : a.frame = c.done c.elapsed
  shown : 0 < c.elapsed → a.shown = c.shown c.elapsed

namespace Animator.Follows
variable {a : Animator} {c : Course}

theorem fresh : ({} : Animator).Follows {} :=
  ⟨rfl, rfl, rfl, fun h => absurd h (Nat.lt_irrefl 0)⟩

theorem retarget (h : a.Follows c) (ratio : Float) :
    (a.retarget ratio).Follows (c.after (.retarget ratio)) :=
  ⟨h.target, rfl, rfl, fun hpos => absurd hpos (Nat.lt_irrefl 0)⟩

theorem tick (h : a.Follows c) : a.tick.2.Follows (c.after .frame) := by
  by_cases hended : c.done c.elapsed = frames
  · have hframe : frames ≤ a.frame := (h.frame.trans hended).ge
    have hpos : 0 < c.elapsed := by
      by_contra hzero
      rw [Nat.eq_zero_of_not_pos hzero] at hended
      cases hended
    rw [Animator.tick, if_pos hframe]
    refine ⟨h.source, h.target, ?_, fun _ => ?_⟩
    · exact (h.frame.trans hended).trans (Course.done_succ_of_ended hended).symm
    · exact (h.shown hpos).trans (Course.shown_succ_of_ended hended).symm
  · obtain ⟨hnow, hdone, hshown⟩ := Course.succ_of_running hended
    have hframe : a.frame = c.elapsed := h.frame.trans hnow
    have hlt : ¬frames ≤ c.elapsed := fun hle => hended (Course.done_eq_frames_iff.2 (Or.inr hle))
    have hvalue : a.valueAt (c.elapsed + 1) = c.valueAt (c.elapsed + 1) := by
      rw [Animator.valueAt, Course.valueAt, h.source, h.target]
    simp only [Animator.tick, hframe, if_neg hlt, hvalue]
    by_cases hone : 1.0 ≤ c.valueAt (c.elapsed + 1)
    · rw [if_pos hone] at hdone hshown ⊢
      exact ⟨h.source, h.target, hdone.symm, fun _ => hshown.symm⟩
    · rw [if_neg hone] at hdone hshown ⊢
      exact ⟨h.source, h.target, hdone.symm, fun _ => hshown.symm⟩

end Animator.Follows

namespace Line

def call (l : Line) : Call → Option UInt32 × Line
  | .retarget ratio => (none, l.retarget ratio)
  | .frame => l.frame
  | .settle => l.settle

def run : Line → List Call → List (Option UInt32) × Line
  | l, [] => ([], l)
  | l, c :: cs =>
    let (p, l) := l.call c
    let (ps, l) := run l cs
    (p :: ps, l)

theorem run_append (l : Line) (xs ys : List Call) :
    l.run (xs ++ ys) = ((l.run xs).1 ++ ((l.run xs).2.run ys).1, ((l.run xs).2.run ys).2) := by
  induction xs generalizing l with
  | nil => rfl
  | cons c cs ih => simp [run, ih]

theorem animator_show? (l : Line) (value : Float) : (l.show? value).2.animator = l.animator := by
  unfold show?
  dsimp only
  split <;> rfl

theorem last_show? (l : Line) (value : Float) :
    (l.show? value).2.last = some (percent value) := by
  unfold show?
  dsimp only
  split
  next h => exact h
  next => rfl

theorem show?_fst (l : Line) (value : Float) :
    (l.show? value).1 = if l.last = some (percent value) then none else some (percent value) := by
  unfold show?
  dsimp only
  split <;> rfl

theorem show?_eq_none_iff (l : Line) (value : Float) :
    (l.show? value).1 = none ↔ l.last = some (percent value) := by
  rw [show?_fst]
  split
  next h => exact iff_of_true rfl h
  next h => exact iff_of_false (Option.some_ne_none _) h

variable {l : Line} {c : Course}

theorem follows_call (h : l.animator.Follows c) (call : Call) :
    (l.call call).2.animator.Follows (c.after call) := by
  cases call with
  | retarget ratio => exact h.retarget ratio
  | frame =>
    simp only [Line.call, frame, animator_show?]
    exact h.tick
  | settle =>
    simp only [Line.call, settle, animator_show?]
    exact h

theorem follows_run (h : l.animator.Follows c) (calls : List Call) :
    (l.run calls).2.animator.Follows (calls.foldl Course.after c) := by
  induction calls generalizing l c with
  | nil => exact h
  | cons call calls ih => exact ih (follows_call h call)

end Line

end DeployWizard.Progress
