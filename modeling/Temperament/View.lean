import Temperament.Plan.Basic
import Temperament.Progress
import Temperament.Scoreboard
import Temperament.Styled
import Temperament.Text.Decimal

/-!
# Views

The texts shown for questions, for the outcome of an assessment and for a plan.
-/

namespace Temperament

namespace View

def newline : Styled := plain "\n"

def line (t : Styled) : Styled := t ++ newline

/-! ## Questions -/

def questionHeading (q : Question) : Styled :=
  (Style.boldInColour .cyan).apply s!"Q{q.id}." ++ plain s!" {q.title}"

def optionLine (option : String × Nat) : Styled :=
  line (plain s!"  [{option.2}] {option.1}")

def question (q : Question) : Styled :=
  line (questionHeading q) ++ q.options.toList.zipIdx.flatMap optionLine

def questions (qs : List Question) : Styled :=
  qs.flatMap question

/-! ## Assessment -/

def scoreLine (score : Category × UInt32) : Styled :=
  line (plain s!"  {score.1.label} ({score.1}): {score.2}")

/-- The outcome of an assessment, with the scores if a board is given. -/
def assessment (c : Category) (board : Option Scoreboard) : Styled :=
  line (plain "评估完成，当前更匹配：" ++ (Style.boldInColour .green).apply c.label ++ plain s!" ({c})") ++
    (board.map fun b => b.breakdown.flatMap scoreLine).getD []

/-! ## Plans -/

def rule : Styled :=
  line ((Style.inColour .cyan).apply (String.ofList (List.replicate 48 '=')))

/-- A heading with an empty line before it. -/
def heading (title : String) : Styled :=
  newline ++ line (Style.bold.apply title)

def sectionOf (title bullet : String) (items : List String) : Styled :=
  heading title ++ items.flatMap fun item => line (plain s!"  {bullet} {item}")

/-- A ratio in whole percent. -/
def percent (ratio : Binary64) : Nat :=
  (ratio.scale 100).magnitude

def progressSummary (p : Progress) : String :=
  s!"本周进度（{p.weekStart} 起）：" ++
  s!"学习 {p.completedLearning}/{p.targetLearning} ({percent p.learningCompletion}%)，" ++
  s!"运动 {p.completedSports}/{p.targetSports} ({percent p.sportsCompletion}%)"

/-- The words of a guardian, unless there are none. -/
def feedback (words : Option String) : Styled :=
  match words with
  | some words => if words.isEmpty then [] else line (Style.dim.apply s!"家长反馈：{words}")
  | none => []

def progress : Option Progress → Styled
  | some p => newline ++ line (Style.dim.apply (progressSummary p)) ++ feedback p.feedback
  | none => newline ++ line (Style.dim.apply
      "提示：家长可在每周末记录完成情况与反馈，系统将据此优化计划。")

/-- A plan for a category, with the report that it was adjusted by. -/
def plan (c : Category) (p : Plan) (report : Option Progress) : Styled :=
  rule ++ line ((Style.boldInColour .cyan).apply "个性化计划") ++
    line (plain "当前更匹配：" ++ (Style.boldInColour .green).apply c.label) ++ rule ++
    heading "建议概述" ++ line (plain s!"  {c.summary}") ++
    sectionOf "学习（每日/每周）" "-" p.learning ++
    sectionOf "运动（每日/每周）" "-" p.sports ++
    sectionOf "目标管理与动态调整" "*" p.goals ++
    progress report

end View

end Temperament
