import Mathlib.Data.List.Destutter
import Mathlib.Data.List.ReduceOption
import DeployWizard.Proofs.SettledLine

set_option autoImplicit false

/-!
What a progress line prints over a sequence of calls. Each frame and each settle has a percentage to
show, and what is printed of them are the changes. The frame counter ends each animation, whatever
its values are; once it has ended nothing moves, so frames have no change to print.
-/
namespace DeployWizard.Progress

namespace Animator
variable {a : Animator}

theorem tick_of_ended (h : frames ≤ a.frame) : a.tick = (none, a) :=
  if_pos h

theorem tick_cases (a : Animator) :
    a.tick.1 = none ∧ frames ≤ a.tick.2.frame ∨
      ∃ v, a.tick.1 = some v ∧ a.frame < frames ∧ a.tick.2.frame = a.frame + 1 := by
  obtain hended | hrunning := le_or_gt frames a.frame
  · rw [tick_of_ended hended]
    exact Or.inl ⟨rfl, hended⟩
  · rw [tick, if_neg (Nat.not_le.2 hrunning)]
    dsimp only
    split
    · exact Or.inl ⟨rfl, le_rfl⟩
    · exact Or.inr ⟨_, rfl, hrunning, rfl⟩

theorem ended_of_tick_eq_none (h : a.tick.1 = none) : frames ≤ a.tick.2.frame := by
  obtain ⟨-, hended⟩ | ⟨v, hv, -⟩ := a.tick_cases
  · exact hended
  · rw [hv] at h
    cases h

theorem ticks_of_ended (h : frames ≤ a.frame) (n : Nat) :
    a.ticks n = (List.replicate n none, a) := by
  induction n with
  | zero => rfl
  | succ n ih => simp only [ticks, tick_of_ended h, ih, List.replicate_succ]

theorem length_values_le (a : Animator) (n : Nat) :
    (a.ticks n).1.reduceOption.length ≤ frames - a.frame := by
  induction n generalizing a with
  | zero => exact Nat.zero_le _
  | succ n ih =>
    have hrest := ih a.tick.2
    simp only [ticks]
    obtain ⟨hnone, hended⟩ | ⟨v, hv, hrunning, hframe⟩ := a.tick_cases
    · rw [hnone, List.reduceOption_cons_of_none]
      omega
    · rw [hv, List.reduceOption_cons_of_some, List.length_cons]
      omega

theorem ended_ticks {n : Nat} (h : frames ≤ a.frame + n) : frames ≤ (a.ticks n).2.frame := by
  induction n generalizing a with
  | zero => exact h
  | succ n ih =>
    refine @ih a.tick.2 ?_
    obtain ⟨-, hended⟩ | ⟨v, -, hrunning, hframe⟩ := a.tick_cases
    · exact Nat.le_add_right_of_le hended
    · omega

/-- The values of an animation are those of its first frames, up to one that reaches 1. -/
theorem Follows.tick_eq_some_iff {c : Course} (h : a.Follows c) (v : Float) :
    a.tick.1 = some v ↔
      c.elapsed < frames ∧ c.reachesOne (c.elapsed + 1) = false ∧
        v = c.valueAt (c.elapsed + 1) := by
  by_cases hended : c.done c.elapsed = frames
  · rw [tick_of_ended (h.frame.trans hended).ge]
    refine iff_of_false (Option.some_ne_none v).symm ?_
    rintro ⟨hlt, hnot, -⟩
    rw [Course.done_eq_frames_iff, min_eq_left hlt.le, or_iff_left (Nat.not_le.2 hlt)] at hended
    rw [Course.reachesOne_mono (Nat.le_succ _) hended] at hnot
    cases hnot
  · have hframe : a.frame = c.elapsed := h.frame.trans (Course.succ_of_running hended).1
    rw [Course.done_eq_frames_iff, not_or, Nat.not_le] at hended
    obtain ⟨hnot, hlt⟩ := hended
    rw [min_eq_left hlt.le, Bool.not_eq_true] at hnot
    have hvalue : a.valueAt (c.elapsed + 1) = c.valueAt (c.elapsed + 1) := by
      rw [Animator.valueAt, Course.valueAt, h.source, h.target]
    rw [Animator.tick, hframe, if_neg (Nat.not_le.2 hlt), hvalue, Course.reachesOne_succ, hnot]
    by_cases hone : 1.0 ≤ c.valueAt (c.elapsed + 1)
    · simp [hone]
    · simp [hone, hlt, eq_comm]

end Animator

namespace Course

def due? (c : Course) : Call → Option UInt32
  | .retarget _ => none
  | .frame => some (percent (c.shown (c.elapsed + 1)))
  | .settle => some (percent c.target)

def percentages : Course → List Call → List UInt32
  | _, [] => []
  | c, call :: calls => (c.due? call).toList ++ percentages (c.after call) calls

end Course

namespace Line
variable {l : Line} {c : Course}

def values : Line → List Call → List (Option Float)
  | _, [] => []
  | l, call :: calls =>
    let rest := values (l.call call).2 calls
    if call.isFrame then l.animator.tick.1 :: rest else rest

theorem animator_kept {later : List Call} (hkeeps : ∀ call ∈ later, call.keepsTarget = true) :
    l.values later = (l.animator.ticks (later.countP Call.isFrame)).1 ∧
      (l.run later).2.animator = (l.animator.ticks (later.countP Call.isFrame)).2 := by
  induction later generalizing l with
  | nil => exact ⟨rfl, rfl⟩
  | cons call later ih =>
    obtain ⟨hvalues, hrun⟩ := @ih (l.call call).2 fun call hmem =>
      hkeeps call (List.mem_cons_of_mem _ hmem)
    cases call with
    | retarget ratio => cases hkeeps _ List.mem_cons_self
    | frame =>
      have hnext : (l.call .frame).2.animator = l.animator.tick.2 := animator_show? _ _
      rw [hnext] at hvalues hrun
      rw [List.countP_cons_of_pos rfl]
      exact ⟨congrArg (l.animator.tick.1 :: ·) hvalues, hrun⟩
    | settle =>
      have hnext : (l.call .settle).2.animator = l.animator := animator_show? _ _
      rw [hnext] at hvalues hrun
      rw [List.countP_cons_of_neg (by decide)]
      exact ⟨hvalues, hrun⟩

/-- Until the line gets a new target, no frame gives a value or moves what is shown. -/
def Rests (l : Line) : Prop :=
  ∀ later : List Call, (∀ call ∈ later, call.keepsTarget = true) →
    (∀ v ∈ l.values later, v = none) ∧ (l.run later).2.animator.shown = l.animator.shown

theorem rests_of_ended (h : frames ≤ l.animator.frame) : l.Rests := by
  intro later hkeeps
  obtain ⟨hvalues, hrun⟩ := @animator_kept l later hkeeps
  rw [hvalues, hrun, Animator.ticks_of_ended h]
  exact ⟨fun v hmem => List.eq_of_mem_replicate hmem, rfl⟩

theorem frame_of_ended (h : frames ≤ l.animator.frame)
    (hlast : l.last = some (percent l.animator.shown)) : l.frame = (none, l) := by
  rw [frame, Animator.tick_of_ended h]
  exact if_pos hlast

theorem silent_frames (h : frames ≤ l.animator.frame)
    (hlast : l.last = some (percent l.animator.shown)) (n : Nat) :
    l.Silent (List.replicate n .frame) := by
  induction n with
  | zero => simp [Silent, run]
  | succ n ih =>
    rw [List.replicate_succ, silent_cons]
    simp only [Line.call, frame_of_ended h hlast, true_and]
    exact ih

theorem last_run_frame (l : Line) (calls : List Call) :
    (l.run (calls ++ [.frame])).2.last =
      some (percent (l.run (calls ++ [.frame])).2.animator.shown) := by
  rw [run_append]
  change (l.run calls).2.frame.2.last = some (percent (l.run calls).2.frame.2.animator.shown)
  rw [frame, last_show?, animator_show?]

theorem call_due (h : l.animator.Follows c) (call : Call) :
    match c.due? call with
    | none => (l.call call).1 = none ∧ (l.call call).2.last = l.last
    | some p =>
      (l.call call).1 = (if l.last = some p then none else some p) ∧
        (l.call call).2.last = some p := by
  cases call with
  | retarget ratio => exact ⟨rfl, rfl⟩
  | frame =>
    have hshown : l.animator.tick.2.shown = c.shown (c.elapsed + 1) :=
      h.tick.shown (Nat.succ_pos c.elapsed)
    simp only [Course.due?, Line.call, frame, show?_fst, last_show?, hshown, and_self]
  | settle =>
    simp only [Course.due?, Line.call, settle, show?_fst, last_show?, h.target, and_self]

/-- Behind the last percentage a line prints the changes of what the calls have to show. -/
theorem printed_eq_destutter (h : l.animator.Follows c) (calls : List Call) :
    l.last.toList ++ (l.run calls).1.reduceOption =
      (l.last.toList ++ c.percentages calls).destutter (· ≠ ·) := by
  -- The last percentage stands in front on both sides, so a fresh line needs no case of its own.
  induction calls generalizing l c with
  | nil => cases l.last <;> simp [run, Course.percentages]
  | cons call calls ih =>
    have hrest := ih (follows_call h call)
    have hcall := call_due h call
    simp only [run, Course.percentages]
    cases hdue : c.due? call with
    | none =>
      simp only [hdue] at hcall
      rw [hcall.1, List.reduceOption_cons_of_none]
      rw [hcall.2] at hrest
      exact hrest
    | some p =>
      simp only [hdue] at hcall
      rw [hcall.2] at hrest
      cases hlast : l.last with
      | none =>
        rw [hlast, if_neg (Option.some_ne_none p).symm] at hcall
        rw [hcall.1, List.reduceOption_cons_of_some]
        exact hrest
      | some q =>
        change q :: _ = List.destutter _ (q :: p :: _)
        rw [List.destutter_cons']
        by_cases hsame : q = p
        · subst hsame
          rw [hlast, if_pos rfl] at hcall
          rw [hcall.1, List.reduceOption_cons_of_none, List.destutter'_cons_neg _ (not_not.2 rfl)]
          exact hrest
        · rw [hlast, if_neg fun heq => hsame (Option.some.inj heq)] at hcall
          rw [hcall.1, List.reduceOption_cons_of_some, List.destutter'_cons_pos _ hsame]
          exact congrArg (q :: ·) hrest

/-- What is printed of the shown percentages are the changes, so none comes twice in a row. A frame
gives a value iff it is one of the first hundred and none of their values has reached 1, so at most
a hundred values stand between two targets. The first frame without a value may still move what is
shown, to 1; behind it the animation rests. Behind a hundred frames further ones print nothing, also
where the line was settled before the last of them. -/
theorem prints_changes_then_rests (calls : List Call) :
    let printed := (run {} calls).1.reduceOption
    let l := (run {} calls).2
    let c := course calls
    (printed.IsChain (· ≠ ·) ∧ printed = (Course.percentages {} calls).destutter (· ≠ ·)) ∧
      (∀ v, l.animator.tick.1 = some v ↔
        c.elapsed < frames ∧ c.reachesOne (c.elapsed + 1) = false ∧
          v = c.valueAt (c.elapsed + 1)) ∧
      (l.animator.tick.1 = none → l.frame.2.Rests) ∧
      ∀ later : List Call, (∀ call ∈ later, call.keepsTarget = true) →
        (l.values later).reduceOption.length ≤ frames ∧
          (frames ≤ later.countP Call.isFrame → later.getLast? = some .frame →
            ∀ n, (l.run later).2.Silent (List.replicate n .frame)) := by
  intro printed l c
  have hfollows : l.animator.Follows c := follows_run Animator.Follows.fresh calls
  have hprinted : printed = (Course.percentages {} calls).destutter (· ≠ ·) :=
    @printed_eq_destutter {} {} Animator.Follows.fresh calls
  refine ⟨⟨?_, hprinted⟩, hfollows.tick_eq_some_iff, fun hnone => ?_, fun later hkeeps => ⟨?_, ?_⟩⟩
  · rw [hprinted]
    exact List.isChain_destutter _ _
  · refine rests_of_ended ?_
    rw [frame, animator_show?]
    exact Animator.ended_of_tick_eq_none hnone
  · rw [(animator_kept hkeeps).1]
    exact (Animator.length_values_le _ _).trans (Nat.sub_le _ _)
  · intro hframes hframe n
    obtain ⟨earlier, rfl⟩ := List.getLast?_eq_some_iff.1 hframe
    refine silent_frames ?_ (last_run_frame l earlier) n
    rw [(animator_kept hkeeps).2]
    exact Animator.ended_ticks (Nat.le_add_left_of_le hframes)

theorem prints_changes_then_rests_beyond_one :
    let calls := [Call.frame, .retarget (0.0 / 0.0), .frame, .retarget 7.5, .retarget 2.0, .settle]
    let later := Call.settle :: List.replicate 100 .frame
    let l := (run {} calls).2
    (run {} calls).1 = [some 0, none, none, none, none, some 100] ∧
      l.animator.tick.1 = none ∧ l.frame.2.Rests ∧
      (∀ call ∈ later, call.keepsTarget = true) ∧ (l.values later).reduceOption.length ≤ frames ∧
      frames ≤ later.countP Call.isFrame ∧ later.getLast? = some .frame ∧
      (l.run later).2.Silent (List.replicate 7 .frame) := by
  intro calls later l
  have hprinted : (run {} calls).1 = [some 0, none, none, none, none, some 100] := by
    decide +kernel
  have hnone : l.animator.tick.1 = none := by decide +kernel
  have hkeeps : ∀ call ∈ later, call.keepsTarget = true := by simp [later, Call.keepsTarget]
  have hframes : frames ≤ later.countP Call.isFrame := by decide +kernel
  have hframe : later.getLast? = some .frame := rfl
  obtain ⟨-, -, hrests, hlater⟩ := prints_changes_then_rests calls
  exact ⟨hprinted, hnone, hrests hnone, hkeeps, (hlater later hkeeps).1, hframes, hframe,
    (hlater later hkeeps).2 hframes hframe 7⟩

end Line

end DeployWizard.Progress
