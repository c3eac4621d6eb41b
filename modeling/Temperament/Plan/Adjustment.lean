import Temperament.Plan.Basic
import Temperament.Progress

/-!
# Adjusting a plan

A weekly report adds at most one recommendation to each list: an easier or a harder one where less
than 0.6 or more than 1.1 of the target was completed, and a swap of a task if the guardian's words
mention stress.  The rules are the same for every category.
-/

namespace Temperament

/-- The direction in which one list of a plan is adjusted. -/
inductive Adjustment
  | ease
  | hold
  | stretch
  deriving DecidableEq, Inhabited

namespace Adjustment

/-- Completion below this number makes the plan easier. -/
def lowerThreshold : Binary64 := .nearest 3 5

/-- Completion above this number makes the plan harder. -/
def upperThreshold : Binary64 := .nearest 11 10

def ofCompletion (ratio : Binary64) : Adjustment :=
  if ratio.lt lowerThreshold then ease
  else if upperThreshold.lt ratio then stretch
  else hold

def name : Adjustment → String
  | ease => "Ease"
  | hold => "Hold"
  | stretch => "Stretch"

/-- What an adjustment adds to a list, given the two recommendations to choose from. -/
def additions (easier harder : String) : Adjustment → List String
  | ease => [easier]
  | hold => []
  | stretch => [harder]

end Adjustment

/-- Whether one list stands somewhere inside another. -/
def hasInfix {α : Type} [BEq α] (inner : List α) : List α → Bool
  | [] => inner.isEmpty
  | a :: l => inner.isPrefixOf (a :: l) || hasInfix inner l

/-- The word for stress. -/
def stressWord : String := "压力"

def signalsStress : Option String → Bool
  | some text => hasInfix stressWord.toList text.toList
  | none => false

namespace Progress

def learningAdjustment (p : Progress) : Adjustment := .ofCompletion p.learningCompletion

def sportsAdjustment (p : Progress) : Adjustment := .ofCompletion p.sportsCompletion

def isStressed (p : Progress) : Bool := signalsStress p.feedback

/-- What a report adds to a plan. -/
def additions (p : Progress) : Plan where
  learning := p.learningAdjustment.additions
    "将学习目标拆分为更小步骤，每次 5-8 分钟" "增加一个拓展挑战：本周新增一次延伸任务"
  sports := p.sportsAdjustment.additions
    "将运动改为更短更频的 10 分钟节奏" "提高强度或时长 10-15%（量力而行）"
  goals := if p.isStressed then ["关注兴趣驱动，允许替换 1 项不感兴趣任务"] else []

end Progress

namespace Plan

def append (p q : Plan) : Plan :=
  ⟨p.learning ++ q.learning, p.sports ++ q.sports, p.goals ++ q.goals⟩

instance : Append Plan := ⟨append⟩

/-- The plan adjusted by a report, the same plan without one. -/
def adjust (p : Plan) : Option Progress → Plan
  | some progress => p ++ progress.additions
  | none => p

end Plan

end Temperament
