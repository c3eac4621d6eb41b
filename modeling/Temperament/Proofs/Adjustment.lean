import Temperament.Plan.Adjustment
import Temperament.Proofs.Binary64

/-!
# Thresholds of completion

The thresholds and the part of a target that was completed are rounded, but the direction of an
adjustment is the one that the counts themselves call for (`ofCompletion_completionRatio`): no
rounding moves a report across a threshold.  What a report adds to a list hangs on two of its counts
(`additions_learning`, `additions_sports`), or on its words (`additions_goals`).
-/

namespace Temperament

open Binary64

theorem max_one_toNat_pos (target : UInt32) : 0 < max 1 target.toNat :=
  Nat.lt_of_lt_of_le Nat.one_pos (Nat.le_max_left _ _)

theorem max_one_toNat_lt (target : UInt32) : max 1 target.toNat < 2 ^ 32 :=
  Nat.max_lt.2 ⟨by decide, target.toNat_lt⟩

namespace Adjustment

theorem lt_lowerThreshold_iff (completed target : UInt32) :
    (completionRatio completed target).lt lowerThreshold = true ↔
      5 * completed.toNat < 3 * max 1 target.toNat := by
  have hcompleted := completed.toNat_lt
  have htarget := max_one_toNat_lt target
  have hratio : completed.toNat * 5 < 2 ^ 52 := by omega
  have hthreshold : 3 * max 1 target.toNat < 2 ^ 52 := by omega
  rw [completionRatio, lowerThreshold, Nat.mul_comm 5]
  exact (lt_nearest_iff (max_one_toNat_pos target) (by decide) (by decide) hratio hthreshold
    (by decide)).1

theorem upperThreshold_lt_iff (completed target : UInt32) :
    upperThreshold.lt (completionRatio completed target) = true ↔
      11 * max 1 target.toNat < 10 * completed.toNat := by
  have hcompleted := completed.toNat_lt
  have htarget := max_one_toNat_lt target
  have hratio : completed.toNat * 10 < 2 ^ 52 := by omega
  have hthreshold : 11 * max 1 target.toNat < 2 ^ 52 := by omega
  rw [completionRatio, upperThreshold, Nat.mul_comm 10]
  exact (lt_nearest_iff (max_one_toNat_pos target) (by decide) (by decide) hratio hthreshold
    (by decide)).2

/-- The direction that counts call for: below three fifths of the target, or above eleven tenths. -/
def ofCounts (completed target : Nat) : Adjustment :=
  if 5 * completed < 3 * target then ease
  else if 11 * target < 10 * completed then stretch
  else hold

theorem ofCompletion_completionRatio (completed target : UInt32) :
    ofCompletion (completionRatio completed target) =
      ofCounts completed.toNat (max 1 target.toNat) := by
  unfold ofCompletion ofCounts
  simp only [lt_lowerThreshold_iff, upperThreshold_lt_iff]

theorem ofCounts_eq_ease_iff {completed target : Nat} :
    ofCounts completed target = ease ↔ 5 * completed < 3 * target := by
  unfold ofCounts
  split
  · simp_all
  · split <;> simp_all

theorem ofCounts_eq_stretch_iff {completed target : Nat} :
    ofCounts completed target = stretch ↔ 11 * target < 10 * completed := by
  unfold ofCounts
  split
  · simp only [reduceCtorEq, false_iff]
    omega
  · split <;> simp_all

theorem ofCounts_eq_hold_iff {completed target : Nat} :
    ofCounts completed target = hold ↔
      3 * target ≤ 5 * completed ∧ 10 * completed ≤ 11 * target := by
  unfold ofCounts
  split
  · simp only [reduceCtorEq, false_iff]
    omega
  · split <;> simp_all

end Adjustment

/-! ## Adjusted lists -/

/-- What a list gets for its counts: the easier recommendation below three fifths of the target, the
harder one above eleven tenths. -/
def additionFor (completed target : UInt32) (easier harder : String) : List String :=
  if 5 * completed.toNat < 3 * max 1 target.toNat then [easier]
  else if 11 * max 1 target.toNat < 10 * completed.toNat then [harder]
  else []

theorem additions_ofCompletion (completed target : UInt32) (easier harder : String) :
    (Adjustment.ofCompletion (completionRatio completed target)).additions easier harder =
      additionFor completed target easier harder := by
  rw [Adjustment.ofCompletion_completionRatio]
  unfold Adjustment.ofCounts additionFor
  split
  · rfl
  · split <;> rfl

theorem length_additionFor (completed target : UInt32) (easier harder : String) :
    (additionFor completed target easier harder).length ≤ 1 := by
  unfold additionFor
  split
  · exact Nat.le_refl 1
  · split
    · exact Nat.le_refl 1
    · exact Nat.zero_le 1

theorem additions_learning (report : Progress) :
    report.additions.learning = additionFor report.completedLearning report.targetLearning
      "将学习目标拆分为更小步骤，每次 5-8 分钟" "增加一个拓展挑战：本周新增一次延伸任务" := by
  rw [← additions_ofCompletion, Progress.additions, Progress.learningAdjustment,
    Progress.learningCompletion]

theorem additions_sports (report : Progress) :
    report.additions.sports = additionFor report.completedSports report.targetSports
      "将运动改为更短更频的 10 分钟节奏" "提高强度或时长 10-15%（量力而行）" := by
  rw [← additions_ofCompletion, Progress.additions, Progress.sportsAdjustment,
    Progress.sportsCompletion]

theorem Plan.learning_append (p q : Plan) : (p ++ q).learning = p.learning ++ q.learning := rfl

theorem Plan.sports_append (p q : Plan) : (p ++ q).sports = p.sports ++ q.sports := rfl

theorem Plan.goals_append (p q : Plan) : (p ++ q).goals = p.goals ++ q.goals := rfl

theorem Plan.adjust_some (p : Plan) (report : Progress) :
    p.adjust (some report) = p ++ report.additions :=
  rfl

/-- The direction of an adjustment and what it adds to a plan, in terms of the counts.  A target of
zero counts as one. -/
theorem adjust_for_counts :
    (∀ completed target : UInt32,
      let t := max 1 target.toNat
      let direction := Adjustment.ofCompletion (completionRatio completed target)
      (direction = .ease ↔ 5 * completed.toNat < 3 * t) ∧
        (direction = .stretch ↔ 10 * completed.toNat > 11 * t) ∧
        (direction = .hold ↔ ¬ 5 * completed.toNat < 3 * t ∧ ¬ 10 * completed.toNat > 11 * t)) ∧
    ∀ (p : Plan) (report : Progress),
      (p.adjust (some report)).learning = p.learning ++
        additionFor report.completedLearning report.targetLearning
          "将学习目标拆分为更小步骤，每次 5-8 分钟" "增加一个拓展挑战：本周新增一次延伸任务" ∧
      (p.adjust (some report)).sports = p.sports ++
        additionFor report.completedSports report.targetSports
          "将运动改为更短更频的 10 分钟节奏" "提高强度或时长 10-15%（量力而行）" := by
  refine ⟨fun completed target => ?_, fun p report => ⟨?_, ?_⟩⟩
  · rw [Adjustment.ofCompletion_completionRatio]
    refine ⟨Adjustment.ofCounts_eq_ease_iff, Adjustment.ofCounts_eq_stretch_iff, ?_⟩
    rw [Adjustment.ofCounts_eq_hold_iff]
    omega
  · rw [Plan.adjust_some, Plan.learning_append, ← additions_ofCompletion, Progress.additions,
      Progress.learningAdjustment, Progress.learningCompletion]
  · rw [Plan.adjust_some, Plan.sports_append, ← additions_ofCompletion, Progress.additions,
      Progress.sportsAdjustment, Progress.sportsCompletion]

-- The thresholds themselves, as bit patterns.
example : Adjustment.lowerThreshold.toBits = 0x3fe3333333333333 ∧
    Adjustment.upperThreshold.toBits = 0x3ff199999999999a := by
  decide +kernel

/-! ## Stress -/

theorem hasInfix_iff {α : Type} [BEq α] [LawfulBEq α] {inner l : List α} :
    hasInfix inner l = true ↔ inner <:+: l := by
  induction l with
  | nil => rw [hasInfix, List.isEmpty_iff, List.infix_nil]
  | cons a l ih =>
    rw [hasInfix, Bool.or_eq_true, List.isPrefixOf_iff_prefix, ih, List.infix_cons_iff]

/-- Words signal stress just if they can be split around the word for it. -/
theorem signalsStress_iff {feedback : Option String} :
    signalsStress feedback = true ↔
      ∃ before after, feedback = some (before ++ stressWord ++ after) := by
  cases feedback with
  | none => simp [signalsStress]
  | some text =>
    rw [signalsStress, hasInfix_iff]
    constructor
    · rintro ⟨before, after, htext⟩
      refine ⟨String.ofList before, String.ofList after, congrArg some (String.toList_inj.1 ?_)⟩
      rw [String.toList_append, String.toList_append, String.toList_ofList, String.toList_ofList,
        htext]
    · rintro ⟨before, after, htext⟩
      refine ⟨before.toList, after.toList, ?_⟩
      rw [← String.toList_append, ← String.toList_append, Option.some.inj htext]

theorem additions_goals (report : Progress) :
    report.additions.goals =
      if report.isStressed then ["关注兴趣驱动，允许替换 1 项不感兴趣任务"] else [] :=
  rfl

end Temperament
