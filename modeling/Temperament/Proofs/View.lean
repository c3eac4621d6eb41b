import Mathlib.Tactic.SplitIfs
import Temperament.Proofs.Date
import Temperament.Proofs.Styled
import Temperament.View

/-!
# Views without escape characters

A view holds an escape character only if one of the texts it is given does; numerals, dates and the
words of the views themselves hold none.
-/

namespace Temperament

/-! ## Texts -/

theorem isClear_ofList {cs : List Char} (h : escape ∉ cs) : IsClear (String.ofList cs) := by
  rwa [IsClear, String.toList_ofList]

@[simp]
theorem isClear_toString_uInt32 (n : UInt32) : IsClear (toString n) :=
  isClear_repr n.toNat

@[simp]
theorem Text.escape_notMem_paddedDigits (width n : Nat) : escape ∉ Text.paddedDigits width n :=
  Text.notMem_paddedDigits (by decide) width n

@[simp]
theorem Date.isClear_toString (d : Date) : IsClear (toString d) := by
  have hhyphen : escape ≠ '-' := by decide
  have hplus : escape ≠ '+' := by decide
  have hyear : escape ∉ Date.yearText d.year := by
    unfold Date.yearText
    split_ifs <;> simp [hhyphen, hplus]
  have hwrite : escape ∉ d.write := by simp [Date.write, hyear, hhyphen]
  exact isClear_ofList hwrite

namespace Category

@[simp]
theorem isClear_toString (c : Category) : IsClear (toString c) := by
  cases c <;> decide

@[simp]
theorem isClear_label (c : Category) : IsClear c.label := by
  cases c <;> decide

set_option maxRecDepth 2000 in
@[simp]
theorem isClear_summary (c : Category) : IsClear c.summary := by
  cases c <;> exact isClear_ofList (by decide +kernel)

end Category

/-! ## Records -/

/-- A question whose texts hold no escape character. -/
structure Question.IsClear (q : Question) : Prop where
  title : Temperament.IsClear q.title
  options : ∀ option ∈ q.options, Temperament.IsClear option

/-- A plan whose texts hold no escape character. -/
structure Plan.IsClear (p : Plan) : Prop where
  learning : ∀ item ∈ p.learning, Temperament.IsClear item
  sports : ∀ item ∈ p.sports, Temperament.IsClear item
  goals : ∀ item ∈ p.goals, Temperament.IsClear item

/-- A report whose words hold no escape character. -/
def Progress.IsClear (p : Progress) : Prop :=
  ∀ words ∈ p.feedback, Temperament.IsClear words

/-! ## Views -/

namespace View

@[simp]
theorem isClear_line {t : Styled} : (line t).IsClear ↔ t.IsClear := by
  have hnewline : IsClear "\n" := by decide
  simp [line, newline, hnewline]

theorem isClear_question {q : Question} (h : q.IsClear) : (question q).IsClear := by
  have hoption (option : String × Nat) (hmem : option ∈ q.options.toList.zipIdx) :
      IsClear option.1 :=
    h.options _ (Vector.mem_toList_iff.1 (List.fst_mem_of_mem_zipIdx hmem))
  simpa +decide [question, questionHeading, optionLine, h.title] using
    fun option index hmem => hoption (option, index) hmem

theorem isClear_questions {qs : List Question} (h : ∀ q ∈ qs, q.IsClear) :
    (questions qs).IsClear :=
  Styled.isClear_flatMap.2 fun q hq => isClear_question (h q hq)

theorem isClear_assessment (c : Category) (board : Option Scoreboard) :
    (assessment c board).IsClear := by
  cases board <;> simp +decide [assessment, scoreLine]

@[simp]
theorem isClear_rule : rule.IsClear := by
  simp +decide [rule]

@[simp]
theorem isClear_heading {title : String} : (heading title).IsClear ↔ IsClear title := by
  simp +decide [heading, newline]

theorem isClear_sectionOf {title bullet : String} {items : List String} (htitle : IsClear title)
    (hbullet : IsClear bullet) (hitems : ∀ item ∈ items, IsClear item) :
    (sectionOf title bullet items).IsClear := by
  simpa +decide [sectionOf, htitle, hbullet] using hitems

theorem isClear_feedback {words : Option String} (h : ∀ w ∈ words, IsClear w) :
    (feedback words).IsClear := by
  unfold feedback
  split
  · rename_i words
    split_ifs
    · simp
    · simp +decide [h words rfl]
  · simp

theorem isClear_progressSummary (p : Progress) : IsClear (progressSummary p) := by
  unfold progressSummary
  simp only [isClear_append, isClear_toString, isClear_toString_uInt32, Date.isClear_toString,
    Nat.toString_eq_repr, isClear_repr, and_true]
  decide

theorem isClear_progress {report : Option Progress} (h : ∀ r ∈ report, r.IsClear) :
    (progress report).IsClear := by
  have hnewline : newline.IsClear := Styled.isClear_plain.2 (by decide)
  rcases report with _ | r
  · simp +decide [progress, hnewline]
  · simp [progress, hnewline, isClear_progressSummary, isClear_feedback (h r rfl)]

theorem isClear_plan (c : Category) {p : Plan} {report : Option Progress} (hp : p.IsClear)
    (hreport : ∀ r ∈ report, r.IsClear) : (plan c p report).IsClear := by
  have hlearning : (sectionOf "学习（每日/每周）" "-" p.learning).IsClear :=
    isClear_sectionOf (by decide) (by decide) hp.learning
  have hsports : (sectionOf "运动（每日/每周）" "-" p.sports).IsClear :=
    isClear_sectionOf (by decide) (by decide) hp.sports
  have hgoals : (sectionOf "目标管理与动态调整" "*" p.goals).IsClear :=
    isClear_sectionOf (by decide) (by decide) hp.goals
  simp +decide [plan, hlearning, hsports, hgoals, isClear_progress hreport]

end View

end Temperament
