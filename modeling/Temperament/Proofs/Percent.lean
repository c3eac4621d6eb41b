import Mathlib.Algebra.Order.Ring.Abs
import Temperament.Proofs.Adjustment
import Temperament.Proofs.PlanView

/-!
# Percentages

The percentages of a report are rounded three times on their way to the view of a plan, and are
nearest integers to the exact ones all the same (`plan_percents`).
-/

namespace Temperament

/-- An integer to which a quotient is rounded: a nearest one, hence the exact rounding, but for a
quotient halfway between two integers, which may go either way. -/
structure IsRounded (num den p : Nat) : Prop where
  near : |2 * ((num : Int) - p * den)| ≤ den
  exact : ∀ k : Nat, |2 * ((num : Int) - k * den)| < den → p = k
  half : ∀ k : Nat, 2 * num = (2 * k + 1) * den → p = k ∨ p = k + 1

theorem isRounded_of_bounds {num den p : Nat} (hden : 0 < den)
    (hlow : 2 * num ≤ 2 * (p * den) + den) (hhigh : 2 * (p * den) ≤ 2 * num + den) :
    IsRounded num den p := by
  -- Two integers whose multiples of `den` are less than `2 * den` apart follow on one another.
  have hclose {i j : Nat} (h : i * den < (j + 1) * den) : i ≤ j :=
    Nat.le_of_lt_succ (Nat.lt_of_mul_lt_mul_right h)
  refine ⟨?_, fun k hk => ?_, fun k hk => ?_⟩
  · rw [abs_le]
    constructor <;> omega
  · rw [abs_lt] at hk
    have hp : p ≤ k := hclose (by rw [Nat.succ_mul]; omega)
    have hk : k ≤ p := hclose (by rw [Nat.succ_mul]; omega)
    exact Nat.le_antisymm hp hk
  · have hk : 2 * num = 2 * (k * den) + den := by rw [hk]; ring
    have hp : p ≤ k + 1 := hclose (by rw [Nat.succ_mul, Nat.succ_mul]; omega)
    have hk : k ≤ p := hclose (by rw [Nat.succ_mul]; omega)
    omega

namespace View

theorem isRounded_percent (completed target : UInt32) :
    IsRounded (100 * completed.toNat) (max 1 target.toNat)
      (percent (completionRatio completed target)) := by
  have hcompleted := completed.toNat_lt
  have htarget := max_one_toNat_lt target
  have hlimit : max 1 target.toNat < 2 ^ 52 := by omega
  have hsmall : 100 * completed.toNat < 2 ^ 50 := by omega
  have hfactor : 0 < 100 := by decide
  obtain ⟨hlow, hhigh⟩ := Binary64.magnitude_scale_nearest hfactor (max_one_toNat_pos target)
    hlimit hsmall
  exact isRounded_of_bounds (max_one_toNat_pos target) hlow hhigh

end View

/-- In every view of a plan with a report, the percentages in the line about the report are the exact
ones of its counts, rounded.  What stands above that line does not hang on the report. -/
theorem plan_percents (c : Category) (p : Plan) :
    ∃ above : Styled, ∀ report : Progress, ∃ learning sports : Nat,
      View.plan c p (some report) = above ++ View.line (Style.dim.apply
        (s!"本周进度（{report.weekStart} 起）：" ++
          s!"学习 {report.completedLearning}/{report.targetLearning} ({learning}%)，" ++
          s!"运动 {report.completedSports}/{report.targetSports} ({sports}%)")) ++
        View.feedback report.feedback ∧
      IsRounded (100 * report.completedLearning.toNat) (max 1 report.targetLearning.toNat)
        learning ∧
      IsRounded (100 * report.completedSports.toNat) (max 1 report.targetSports.toNat) sports := by
  refine ⟨View.planBody c p ++ View.newline, fun report => ⟨View.percent report.learningCompletion,
    View.percent report.sportsCompletion, ?_, View.isRounded_percent _ _,
    View.isRounded_percent _ _⟩⟩
  rw [View.plan_eq, View.progress, List.append_assoc, List.append_assoc, List.append_assoc]
  unfold View.progressSummary
  rfl

end Temperament
