import Temperament.Proofs.Date
import Temperament.Proofs.Text.Decimal
import Temperament.View

/-!
# Reading back the view of a plan

The plain view of a plan determines what it shows (`render_plan_eq_iff`), if the recommendations are
lines: the label is the rest of its line, a list goes on as long as lines begin with a blank, numerals
and dates end where a character follows that they do not hold, and the words of a guardian are all
that is left.
-/

namespace Temperament

open Text

/-! ## Plain text -/

namespace Styled

/-- The characters of a text in plain rendering. -/
def chars (t : Styled) : List Char :=
  t.flatMap fun span => span.text.toList

theorem toList_render (t : Styled) : (t.render false).toList = t.chars := by
  rw [render, String.toList_join, List.flatMap_map]
  rfl

theorem render_inj {t t' : Styled} : t.render false = t'.render false ↔ t.chars = t'.chars := by
  rw [← toList_render, ← toList_render, String.toList_inj]

theorem chars_append (t t' : Styled) : chars (t ++ t') = t.chars ++ t'.chars :=
  List.flatMap_append

theorem chars_plain (s : String) : (plain s).chars = s.toList :=
  List.append_nil _

theorem chars_apply (style : Style) (s : String) : (style.apply s).chars = s.toList :=
  List.append_nil _

theorem chars_newline : View.newline.chars = ['\n'] := rfl

theorem chars_line (t : Styled) : (View.line t).chars = t.chars ++ ['\n'] := by
  rw [View.line, chars_append, chars_newline]

end Styled
open Styled

/-! ## Numerals and dates -/

theorem toList_toString (n : Nat) : (toString n).toList = digits n := by
  rw [Nat.toString_eq_ofList_toDigits, String.toList_ofList, digits]

theorem toList_toString_uInt32 (n : UInt32) : (toString n).toList = digits n.toNat :=
  toList_toString n.toNat

theorem digits_append_inj {c : Char} (hc : c.isDigit = false) {n n' : UInt32}
    {rest rest' : List Char} (h : digits n.toNat ++ c :: rest = digits n'.toNat ++ c :: rest') :
    n = n' ∧ rest = rest' := by
  obtain ⟨hdigits, hrest⟩ := append_cons_inj (notMem_digits hc _) (notMem_digits hc _) h
  refine ⟨UInt32.toNat_inj.1 ?_, hrest⟩
  rw [← ofDigits_digits n.toNat, hdigits, ofDigits_digits]

namespace Date

theorem notMem_write (d : Date) : ' ' ∉ d.write := by
  have hpadded := notMem_paddedDigits (c := ' ') rfl
  have hyear : ' ' ∉ yearText d.year := by
    unfold yearText
    split
    · simp [hpadded]
    · split <;> simp [hpadded]
  simp [write, hyear, hpadded]

theorem write_append_inj {d d' : Date} {rest rest' : List Char}
    (h : d.write ++ ' ' :: rest = d'.write ++ ' ' :: rest') : d = d' ∧ rest = rest' := by
  obtain ⟨hwrite, hrest⟩ := append_cons_inj (notMem_write d) (notMem_write d') h
  refine ⟨Option.some.inj ?_, hrest⟩
  rw [← ofText?_text d, text, hwrite, ← text, ofText?_text d']

end Date

/-! ## Parts of the view -/

theorem Category.label_injective {c c' : Category} (h : c.label = c'.label) : c = c' := by
  revert h
  cases c <;> cases c' <;> decide

namespace View

/-- The view of a plan up to its lists. -/
def planHeader (c : Category) : Styled :=
  rule ++ line ((Style.boldInColour .cyan).apply "个性化计划") ++
    line (plain "当前更匹配：" ++ (Style.boldInColour .green).apply c.label) ++ rule ++
    heading "建议概述" ++ line (plain s!"  {c.summary}")

/-- The view of a plan without what it says about a report. -/
def planBody (c : Category) (p : Plan) : Styled :=
  planHeader c ++ sectionOf "学习（每日/每周）" "-" p.learning ++
    sectionOf "运动（每日/每周）" "-" p.sports ++ sectionOf "目标管理与动态调整" "*" p.goals

theorem plan_eq (c : Category) (p : Plan) (report : Option Progress) :
    plan c p report = planBody c p ++ progress report := rfl

theorem planHeader_append_inj {c c' : Category} {rest rest' : List Char}
    (h : (planHeader c).chars ++ rest = (planHeader c').chars ++ rest') : c = c' ∧ rest = rest' := by
  have hlabel (c : Category) : '\n' ∉ c.label.toList := by cases c <;> decide
  have hc : c = c' := by
    simp only [planHeader, chars_append, chars_line, chars_plain, chars_apply, List.append_assoc,
      List.cons_append, List.nil_append, List.append_cancel_left_eq, List.cons.injEq, true_and] at h
    exact Category.label_injective (String.toList_inj.1 (append_cons_inj (hlabel c) (hlabel c') h).1)
  subst hc
  exact ⟨rfl, List.append_cancel_left h⟩

/-- The line of one recommendation. -/
def itemLine (bullet item : String) : List Char :=
  ' ' :: ' ' :: (bullet.toList ++ ' ' :: (item.toList ++ ['\n']))

theorem chars_itemLines (bullet : String) (items : List String) :
    chars (items.flatMap fun item => line (plain s!"  {bullet} {item}")) =
      items.flatMap (itemLine bullet) := by
  rw [chars, List.flatMap_assoc]
  refine congrArg items.flatMap (funext fun item => ?_)
  show (line (plain s!"  {bullet} {item}")).chars = _
  rw [chars_line, chars_plain, String.toList_append, String.toList_append, String.toList_append,
    itemLine, List.append_assoc, List.append_assoc, List.append_assoc]
  rfl

theorem chars_sectionOf (title bullet : String) (items : List String) :
    (sectionOf title bullet items).chars =
      '\n' :: (title.toList ++ '\n' :: items.flatMap (itemLine bullet)) := by
  rw [sectionOf, heading, chars_append, chars_append, chars_newline, chars_line, chars_apply,
    chars_itemLines, List.append_assoc, List.append_assoc]
  rfl

/-- The lines of a list end where a line begins that is empty. -/
theorem flatMap_itemLine_append_inj {bullet : String} {items items' : List String}
    {rest rest' : List Char} (hitems : ∀ item ∈ items, '\n' ∉ item.toList)
    (hitems' : ∀ item ∈ items', '\n' ∉ item.toList)
    (h : items.flatMap (itemLine bullet) ++ '\n' :: rest =
      items'.flatMap (itemLine bullet) ++ '\n' :: rest') : items = items' ∧ rest = rest' := by
  -- The first character of a line tells whether it is one more of the list.
  induction items generalizing items' with
  | nil =>
    cases items' with
    | nil => exact ⟨rfl, (List.cons.inj h).2⟩
    | cons item' items' => exact absurd (List.cons.inj h).1 (by decide)
  | cons item items ih =>
    cases items' with
    | nil => exact absurd (List.cons.inj h).1 (by decide)
    | cons item' items' =>
      obtain ⟨hitem, hitems⟩ := List.forall_mem_cons.1 hitems
      obtain ⟨hitem', hitems'⟩ := List.forall_mem_cons.1 hitems'
      simp only [List.flatMap_cons, itemLine, List.append_assoc, List.cons_append,
        List.append_cancel_left_eq, List.cons.injEq, true_and, List.nil_append] at h
      obtain ⟨hhead, htail⟩ := append_cons_inj hitem hitem' h
      obtain ⟨rfl, hrest⟩ := ih hitems hitems' htail
      rw [String.toList_inj.1 hhead]
      exact ⟨rfl, hrest⟩

/-! ## Reports -/

/-- The line about a report.  Its percentages are some function `share` of two counts; what they come
to does not matter here, and is kept from being evaluated. -/
theorem toList_progressSummary : ∃ share : UInt32 → UInt32 → Nat, ∀ r : Progress,
    (progressSummary r).toList = "本周进度（".toList ++ (r.weekStart.write ++ ' ' ::
      ("起）：学习 ".toList ++ (digits r.completedLearning.toNat ++ '/' ::
        (digits r.targetLearning.toNat ++ ' ' :: '(' ::
          (digits (share r.completedLearning r.targetLearning) ++
            ("%)，运动 ".toList ++ (digits r.completedSports.toNat ++ '/' ::
              (digits r.targetSports.toNat ++ ' ' :: '(' ::
                (digits (share r.completedSports r.targetSports) ++ "%)".toList))))))))) := by
  obtain ⟨share, hshare⟩ : ∃ share : UInt32 → UInt32 → Nat,
      ∀ completed target, percent (completionRatio completed target) = share completed target :=
    ⟨_, fun _ _ => rfl⟩
  refine ⟨share, fun r => ?_⟩
  have hdate : (toString r.weekStart).toList = r.weekStart.write := String.toList_ofList
  have htext (s : String) : (toString s).toList = s.toList := rfl
  have hsince : " 起）：".toList = ' ' :: "起）：".toList := rfl
  have hlearning : "起）：学习 ".toList = "起）：".toList ++ "学习 ".toList := rfl
  have hsports : "%)，运动 ".toList = "%)，".toList ++ "运动 ".toList := rfl
  have hslash : "/".toList = ['/'] := rfl
  have hopen : " (".toList = [' ', '('] := rfl
  unfold progressSummary
  rw [Progress.learningCompletion, Progress.sportsCompletion, hshare, hshare]
  simp only [String.toList_append, hdate, toList_toString_uInt32, toList_toString, htext, hsince,
    hlearning, hsports, hslash, hopen, List.append_assoc, List.cons_append, List.nil_append]

end View

/-- Reports that differ in no more than whether there are no words or empty ones. -/
structure Progress.Alike (r r' : Progress) : Prop where
  weekStart : r.weekStart = r'.weekStart
  completedLearning : r.completedLearning = r'.completedLearning
  targetLearning : r.targetLearning = r'.targetLearning
  completedSports : r.completedSports = r'.completedSports
  targetSports : r.targetSports = r'.targetSports
  feedback : r.feedback.getD "" = r'.feedback.getD ""

namespace View

theorem progressSummary_append_inj {r r' : Progress} {rest rest' : List Char}
    (h : (progressSummary r).toList ++ '\n' :: rest = (progressSummary r').toList ++ '\n' :: rest') :
    (r.weekStart = r'.weekStart ∧ r.completedLearning = r'.completedLearning ∧
      r.targetLearning = r'.targetLearning ∧ r.completedSports = r'.completedSports ∧
      r.targetSports = r'.targetSports) ∧ rest = rest' := by
  obtain ⟨share, hsummary⟩ := toList_progressSummary
  simp only [hsummary, List.append_assoc, List.cons_append, List.append_cancel_left_eq] at h
  obtain ⟨hweek, h⟩ := Date.write_append_inj h
  obtain ⟨hcl, h⟩ := digits_append_inj (by decide) (List.append_cancel_left h)
  obtain ⟨htl, h⟩ := digits_append_inj (by decide) h
  rw [hcl, htl, List.cons.injEq] at h
  obtain ⟨hcs, h⟩ := digits_append_inj (by decide)
    (List.append_cancel_left (List.append_cancel_left h.2))
  obtain ⟨hts, h⟩ := digits_append_inj (by decide) h
  rw [hcs, hts, List.cons.injEq] at h
  have hrest := List.append_cancel_left (List.append_cancel_left h.2)
  exact ⟨⟨hweek, hcl, htl, hcs, hts⟩, (List.cons.inj hrest).2⟩

theorem chars_feedback (words : Option String) :
    (feedback words).chars =
      if words.getD "" = "" then [] else "家长反馈：".toList ++ ((words.getD "").toList ++ ['\n']) := by
  cases words with
  | none => rfl
  | some words =>
    simp only [feedback, Option.getD_some, String.isEmpty_iff]
    split
    · rfl
    · rw [chars_line, chars_apply, String.toList_append, List.append_assoc]
      rfl

/-- The words of a guardian are all that follows the line about a report. -/
theorem chars_feedback_inj {words words' : Option String} :
    (feedback words).chars = (feedback words').chars ↔ words.getD "" = words'.getD "" := by
  rw [chars_feedback, chars_feedback]
  constructor
  · intro h
    split at h
    · rename_i hwords
      split at h
      · rename_i hwords'
        rw [hwords, hwords']
      · exact absurd h (by simp)
    · split at h
      · exact absurd h (by simp)
      · have htext := List.append_cancel_right (List.append_cancel_left h)
        exact String.toList_inj.1 htext
  · intro h
    rw [h]

/-- What the view of a plan says about a report, without the empty line before it. -/
def note : Option Progress → Styled
  | some r => line (Style.dim.apply (progressSummary r)) ++ feedback r.feedback
  | none => line (Style.dim.apply "提示：家长可在每周末记录完成情况与反馈，系统将据此优化计划。")

theorem progress_eq (report : Option Progress) : progress report = newline ++ note report := by
  cases report <;> rfl

theorem chars_note_some (r : Progress) : (note (some r)).chars =
    (progressSummary r).toList ++ '\n' :: (feedback r.feedback).chars := by
  rw [note, chars_append, chars_line, chars_apply, List.append_assoc]
  rfl

theorem note_congr {r r' : Progress} (h : r.Alike r') :
    (note (some r)).chars = (note (some r')).chars := by
  have hsummary : progressSummary r = progressSummary r' := by
    unfold progressSummary
    simp only [Progress.learningCompletion, Progress.sportsCompletion, h.weekStart,
      h.completedLearning, h.targetLearning, h.completedSports, h.targetSports]
  rw [chars_note_some, chars_note_some, hsummary, chars_feedback_inj.2 h.feedback]

theorem chars_note_inj {report report' : Option Progress} :
    (note report).chars = (note report').chars ↔ Option.Rel Progress.Alike report report' := by
  have hne (r : Progress) : (note (some r)).chars ≠ (note none).chars := by
    intro h
    obtain ⟨share, hsummary⟩ := toList_progressSummary
    rw [chars_note_some, hsummary, note, chars_line, chars_apply] at h
    exact absurd (List.cons.inj h).1 (by decide)
  cases report with
  | none =>
    cases report' with
    | none => exact ⟨fun _ => .none, fun _ => rfl⟩
    | some r' => exact ⟨fun h => absurd h.symm (hne r'), nofun⟩
  | some r =>
    cases report' with
    | none => exact ⟨fun h => absurd h (hne r), nofun⟩
    | some r' =>
      constructor
      · intro h
        rw [chars_note_some, chars_note_some] at h
        obtain ⟨⟨hweek, hcl, htl, hcs, hts⟩, hrest⟩ := progressSummary_append_inj h
        exact .some ⟨hweek, hcl, htl, hcs, hts, chars_feedback_inj.1 hrest⟩
      · rintro (h | h)
        exact note_congr h

end View

/-- A plan whose recommendations are lines. -/
structure Plan.IsInLines (p : Plan) : Prop where
  learning : ∀ item ∈ p.learning, '\n' ∉ item.toList
  sports : ∀ item ∈ p.sports, '\n' ∉ item.toList
  goals : ∀ item ∈ p.goals, '\n' ∉ item.toList

/-- Plain views of plans in lines are the same text just if they show the same category, the same
plan, and no report or alike ones. -/
theorem render_plan_eq_iff {c c' : Category} {p p' : Plan} {report report' : Option Progress}
    (hp : p.IsInLines) (hp' : p'.IsInLines) :
    (View.plan c p report).render false = (View.plan c' p' report').render false ↔
      c = c' ∧ p = p' ∧ Option.Rel Progress.Alike report report' := by
  rw [Styled.render_inj]
  simp only [View.plan_eq, View.planBody, View.progress_eq, View.chars_sectionOf, chars_append,
    chars_newline, List.append_assoc, List.cons_append, List.nil_append]
  constructor
  · intro h
    obtain ⟨hc, h⟩ := View.planHeader_append_inj h
    obtain ⟨hlearning, h⟩ := View.flatMap_itemLine_append_inj hp.learning hp'.learning
      (List.cons.inj (List.append_cancel_left (List.cons.inj h).2)).2
    obtain ⟨hsports, h⟩ := View.flatMap_itemLine_append_inj hp.sports hp'.sports
      (List.cons.inj (List.append_cancel_left h)).2
    obtain ⟨hgoals, h⟩ := View.flatMap_itemLine_append_inj hp.goals hp'.goals
      (List.cons.inj (List.append_cancel_left h)).2
    have hplan : p = p' := by
      cases p
      cases p'
      rw [Plan.mk.injEq]
      exact ⟨hlearning, hsports, hgoals⟩
    exact ⟨hc, hplan, View.chars_note_inj.1 h⟩
  · rintro ⟨rfl, rfl, hreport⟩
    rw [View.chars_note_inj.2 hreport]

/-- Recommendations that look like lines of another list, and words that go on for several lines. -/
theorem render_plan_eq_iff_lookalikes :
    let p : Plan := { learning := ["", "  - "], goals := ["运动（每日/每周）"] }
    let p' : Plan := { learning := [""], sports := ["  - "], goals := ["运动（每日/每周）"] }
    let report (words : Option String) : Option Progress :=
      some ⟨{ year := 2024, month := 9, day := 2 }, 2, 5, 3, 3, words⟩
    (p.IsInLines ∧ p'.IsInLines) ∧
      (View.plan .social p (report none)).render false =
        (View.plan .social p (report (some ""))).render false ∧
      (View.plan .social p (report (some "有点\n\n提示："))).render false ≠
        (View.plan .social p' (report (some "有点\n\n提示："))).render false := by
  intro p p' report
  have hp : p.IsInLines := ⟨by decide, by decide, by decide⟩
  have hp' : p'.IsInLines := ⟨by decide, by decide, by decide⟩
  refine ⟨⟨hp, hp'⟩, ?_, fun h => ?_⟩
  · exact (render_plan_eq_iff hp hp).2 ⟨rfl, rfl, .some ⟨rfl, rfl, rfl, rfl, rfl, rfl⟩⟩
  · exact absurd ((render_plan_eq_iff hp hp').1 h).2.1 (by decide)

end Temperament
