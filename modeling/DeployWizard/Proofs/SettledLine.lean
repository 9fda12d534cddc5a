import DeployWizard.Proofs.ProgressCourse

set_option autoImplicit false

namespace DeployWizard.Progress

namespace Call

def keepsTarget : Call → Bool
  | .retarget _ => false
  | .frame | .settle => true

def isFrame : Call → Bool
  | .frame => true
  | .retarget _ | .settle => false

end Call

namespace Line
variable {l : Line} {c : Course}

def Silent (l : Line) (calls : List Call) : Prop :=
  ∀ p ∈ (l.run calls).1, p = none

theorem silent_cons (l : Line) (call : Call) (calls : List Call) :
    l.Silent (call :: calls) ↔ (l.call call).1 = none ∧ (l.call call).2.Silent calls := by
  simp [Silent, run]

/-- Behind a settled target, each frame that shows another percentage prints it. -/
theorem silent_iff (h : l.animator.Follows c) (hlast : l.last = some (percent c.target))
    {later : List Call} (hkeeps : ∀ call ∈ later, call.keepsTarget = true) :
    l.Silent later ↔ ∀ n, c.elapsed < n → n ≤ c.elapsed + later.countP Call.isFrame →
      percent (c.shown n) = percent c.target := by
  induction later generalizing l c with
  | nil =>
    refine iff_of_true (by simp [Silent, run]) fun n hlt hle => absurd hle ?_
    exact Nat.not_le.2 hlt
  | cons call later ih =>
    have hrest := fun call hmem => hkeeps call (List.mem_cons_of_mem _ hmem)
    rw [silent_cons]
    cases call with
    | retarget ratio => cases hkeeps _ List.mem_cons_self
    | settle =>
      have htarget : l.animator.target = c.target := h.target
      have hquiet : l.settle.1 = none := by
        rw [settle, show?_eq_none_iff, hlast, htarget]
      have hagain : l.settle.2.last = some (percent c.target) := by
        rw [settle, last_show?, htarget]
      simp only [Line.call, hquiet, true_and]
      exact ih (follows_call h .settle) hagain hrest
    | frame =>
      have hnext := follows_call h .frame
      have hshown : l.animator.tick.2.shown = c.shown (c.elapsed + 1) :=
        h.tick.shown (Nat.succ_pos c.elapsed)
      have hquiet : l.frame.1 = none ↔ percent (c.shown (c.elapsed + 1)) = percent c.target := by
        rw [frame, show?_eq_none_iff, hshown, hlast, Option.some.injEq, eq_comm]
      have hagain : l.frame.2.last = some (percent (c.shown (c.elapsed + 1))) := by
        rw [frame, last_show?, hshown]
      simp only [Line.call, hquiet]
      rw [List.countP_cons_of_pos rfl]
      constructor
      · rintro ⟨hnow, hsilent⟩ n hlt hle
        obtain rfl | hlater := Nat.eq_or_lt_of_le (Nat.succ_le_of_lt hlt)
        · exact hnow
        · have hafter := (ih hnext (hagain.trans (congrArg some hnow)) hrest).1 hsilent
          exact hafter n hlater (by simp only [Course.after]; omega)
      · intro hall
        have hnow := hall (c.elapsed + 1) (Nat.lt_succ_self _) (by omega)
        refine ⟨hnow, (ih hnext (hagain.trans (congrArg some hnow)) hrest).2 ?_⟩
        intro n hlt hle
        simp only [Course.after] at hlt hle
        exact hall n (by omega) (by omega)

def StaysSettled (calls : List Call) : Prop :=
  ∀ later : List Call, (∀ call ∈ later, call.keepsTarget = true) →
    (run {} (calls ++ [.settle])).2.Silent later

theorem run_settle (calls : List Call) :
    (run {} (calls ++ [.settle])).2 = (run {} calls).2.settle.2 := by
  rw [run_append]
  rfl

/-- A settled line stays settled iff every frame that is left of the animation shows the percentage
of the target; once none is left, the value that stands has to. -/
theorem stays_settled_iff (calls : List Call) :
    let c := course calls
    StaysSettled calls ↔ ∀ n, c.elapsed < n → n ≤ max frames (c.elapsed + 1) →
      percent (c.shown n) = percent c.target := by
  intro c
  have hfollows : (run {} calls).2.animator.Follows c := follows_run Animator.Follows.fresh calls
  have hsettled : (run {} calls).2.settle.2.animator.Follows c := follows_call hfollows .settle
  have hlast : (run {} calls).2.settle.2.last = some (percent c.target) := by
    rw [settle, last_show?, hfollows.target]
  simp only [StaysSettled, run_settle]
  constructor
  · intro hstays n hlt _
    have hkeeps : ∀ call ∈ List.replicate (n - c.elapsed) Call.frame,
        call.keepsTarget = true := fun call hmem => List.eq_of_mem_replicate hmem ▸ rfl
    refine (silent_iff hsettled hlast hkeeps).1 (hstays _ hkeeps) n hlt ?_
    rw [List.countP_replicate, if_pos (show Call.frame.isFrame = true from rfl)]
    omega
  · intro hall later hkeeps
    refine (silent_iff hsettled hlast hkeeps).2 fun n hlt _ => ?_
    obtain hle | hgt := le_or_gt n frames
    · exact hall n hlt (le_max_of_le_left hle)
    · -- Behind the hundredth frame the value stands, so one later frame speaks for all.
      have hend := hall (max frames (c.elapsed + 1)) (by omega) le_rfl
      rwa [Course.shown_of_frames_le (le_max_left _ _), ← Course.shown_of_frames_le hgt.le] at hend

/-- A line that is settled before its animation has ended goes back to it. -/
theorem settled_line_moves_back :
    let calls := [Call.retarget 1.0]
    (run {} (calls ++ [.settle, .frame])).1 = [none, some 100, some 1] ∧ ¬StaysSettled calls := by
  intro calls
  have hback : (run {} (calls ++ [.settle, .frame])).1 = [none, some 100, some 1] := by
    decide +kernel
  refine ⟨hback, fun hstays => ?_⟩
  have hsilent := hstays [.frame] (by simp [Call.keepsTarget]) (some 1) (by decide +kernel)
  cases hsilent

end Line

end DeployWizard.Progress
