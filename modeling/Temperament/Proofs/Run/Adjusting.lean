import Temperament.Proofs.Adjustment
import Temperament.Proofs.Run.Answering

/-!
# Adjusting a plan again and again

A plan that is adjusted round after round, for any categories, keeps all that it holds and gets what
each report adds behind it, in the order of the reports (`adjustAll_appends`).  The category of a
round shows in what is noted, and nowhere else.
-/

namespace Temperament

open Journal

/-- One round of adjustment: the category that is planned for, and the report if there is one. -/
structure Round where
  category : Category
  report : Option Progress

namespace Round

def events (round : Round) : List Event :=
  round.report.toList.map (Events.adjusted round.category)

/-- The reports of some rounds, in order. -/
def reports (rounds : List Round) : List Progress :=
  rounds.filterMap Round.report

end Round

namespace Work

/-- Adjusts a plan in one round, with a note of the adjustment. -/
def adjust (p : Plan) (round : Round) : Work Plan := do
  round.report.toList.forM fun progress => note (Events.adjusted round.category progress)
  return p.adjust round.report

/-- Adjusts a plan in one round after the other. -/
def adjustAll (p : Plan) (rounds : List Round) : Work Plan :=
  rounds.foldlM adjust p

/-- A plan that is shown went through one round, for the category that it is shown for. -/
theorem showPlan_eq_adjust (profile : Profile) :
    showPlan profile =
      adjust profile.categoryOrDefault.plan ⟨profile.categoryOrDefault, profile.progress⟩ >>=
        fun p => showText (View.plan profile.categoryOrDefault p profile.progress) := by
  rw [adjust, bind_assoc]
  rfl

theorem adjust_apply (p : Plan) (round : Round) (st : RunState) :
    adjust p round st =
      .ok (p.adjust round.report) { st with events := st.events ++ round.events } := by
  rw [adjust, bind_apply, forM_note_map_apply]
  rfl

theorem adjustAll_apply (p : Plan) (rounds : List Round) (st : RunState) :
    adjustAll p rounds st = .ok (rounds.foldl (fun p round => p.adjust round.report) p)
      { st with events := st.events ++ rounds.flatMap Round.events } := by
  induction rounds generalizing p st with
  | nil =>
    rw [List.flatMap_nil, List.append_nil]
    rfl
  | cons round rounds ih =>
    rw [adjustAll, List.foldlM_cons, bind_apply, adjust_apply, List.foldl_cons, List.flatMap_cons,
      ← List.append_assoc]
    exact ih (p.adjust round.report) _

end Work

/-! ## The lists of the result -/

section Lists

variable {list : Plan → List String}

/-- A list of a plan that joins where plans are joined grows by what the reports add to it. -/
theorem foldl_adjust_eq (hlist : ∀ p q : Plan, list (p ++ q) = list p ++ list q) (p : Plan)
    (rounds : List Round) :
    list (rounds.foldl (fun p round => p.adjust round.report) p) =
      list p ++ (Round.reports rounds).flatMap fun report => list report.additions := by
  induction rounds generalizing p with
  | nil => exact (List.append_nil _).symm
  | cons round rounds ih =>
    obtain ⟨c, report⟩ := round
    rw [List.foldl_cons, ih, Round.reports]
    cases report with
    | none => rfl
    | some report =>
      rw [Plan.adjust_some, hlist, List.append_assoc]
      rfl

end Lists

/-- Rounds of adjustment never fail, and each list of the result is that of the plan with what the
reports add behind it.  A report adds at most one recommendation to each list: those for learning
and for sports by two of its counts, that for the goals by its words. -/
theorem adjustAll_appends :
    (∀ (p : Plan) (rounds : List Round) (st : RunState), ∃ result,
      Work.adjustAll p rounds st =
        .ok result { st with events := st.events ++ rounds.flatMap Round.events } ∧
      result.learning =
        p.learning ++ (Round.reports rounds).flatMap (fun report => report.additions.learning) ∧
      result.sports =
        p.sports ++ (Round.reports rounds).flatMap (fun report => report.additions.sports) ∧
      result.goals =
        p.goals ++ (Round.reports rounds).flatMap (fun report => report.additions.goals)) ∧
    ∀ report : Progress,
      report.additions.learning = additionFor report.completedLearning report.targetLearning
        "将学习目标拆分为更小步骤，每次 5-8 分钟" "增加一个拓展挑战：本周新增一次延伸任务" ∧
      report.additions.learning.length ≤ 1 ∧
      report.additions.sports = additionFor report.completedSports report.targetSports
        "将运动改为更短更频的 10 分钟节奏" "提高强度或时长 10-15%（量力而行）" ∧
      report.additions.sports.length ≤ 1 ∧
      (report.additions.goals = ["关注兴趣驱动，允许替换 1 项不感兴趣任务"] ∨
        report.additions.goals = []) ∧
      (report.additions.goals = ["关注兴趣驱动，允许替换 1 项不感兴趣任务"] ↔
        ∃ before after, report.feedback = some (before ++ "压力" ++ after)) := by
  refine ⟨fun p rounds st => ?_, fun report => ?_⟩
  · exact ⟨_, Work.adjustAll_apply p rounds st, foldl_adjust_eq Plan.learning_append p rounds,
      foldl_adjust_eq Plan.sports_append p rounds, foldl_adjust_eq Plan.goals_append p rounds⟩
  · have hgoals := additions_goals report
    have hwords : report.isStressed = true ↔ _ := signalsStress_iff
    refine ⟨additions_learning report, ?_, additions_sports report, ?_, ?_, ?_⟩
    · rw [additions_learning]
      exact length_additionFor _ _ _ _
    · rw [additions_sports]
      exact length_additionFor _ _ _ _
    · rw [hgoals]
      exact ite_eq_or_eq _ _ _
    · rw [← stressWord, ← hwords, hgoals]
      cases report.isStressed <;> simp

end Temperament
