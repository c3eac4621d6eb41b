import Temperament.Proofs.Answers
import Temperament.Proofs.Text.ByteOrder
import Temperament.Questionnaire

/-!
# The prompt, turn by turn

At the prompt a question takes its turn: the lines that are no choice are refused and it is asked
again, until a line is its choice.  The turns follow one another through the lines, until the
questions or the lines end, and no line after the last turn is read (`run_turns`).
-/

namespace Temperament

open Text

/-- The elements of a list all have a property, or there is a first one that has not. -/
theorem forall_mem_or_exists_append {α : Type} (p : α → Prop) (l : List α) :
    (∀ x ∈ l, p x) ∨
    ∃ before x after, l = before ++ x :: after ∧ (∀ y ∈ before, p y) ∧ ¬p x := by
  induction l with
  | nil => exact .inl nofun
  | cons x l ih =>
    by_cases hx : p x
    · rcases ih with hall | ⟨before, y, after, rfl, hbefore, hy⟩
      · exact .inl (List.forall_mem_cons.2 ⟨hx, hall⟩)
      · exact .inr ⟨x :: before, y, after, rfl, List.forall_mem_cons.2 ⟨hx, hbefore⟩, hy⟩
    · exact .inr ⟨[], x, l, rfl, nofun, hx⟩

namespace Questionnaire

/-! ## Lines of a text -/

theorem notMem_utf8EncodeChar {c : Char} (hc : c ≠ '\n') : 10 ∉ String.utf8EncodeChar c := by
  have hne : c.val.toNat ≠ 10 := fun h => hc (Char.ext (UInt32.toNat_inj.1 h))
  unfold String.utf8EncodeChar
  dsimp only
  split_ifs <;>
    simp only [List.mem_cons, List.not_mem_nil, or_false, ← UInt8.toNat_inj, UInt8.toNat_ofNat',
      UInt8.reduceToNat] <;>
    omega

theorem span_utf8EncodeChar (cs : List Char) :
    (cs.flatMap String.utf8EncodeChar).takeWhile (· != 10) =
        (cs.takeWhile (· != '\n')).flatMap String.utf8EncodeChar ∧
      (cs.flatMap String.utf8EncodeChar).dropWhile (· != 10) =
        (cs.dropWhile (· != '\n')).flatMap String.utf8EncodeChar := by
  induction cs with
  | nil => exact ⟨rfl, rfl⟩
  | cons c cs ih =>
    by_cases hc : c = '\n'
    · rw [hc]
      exact ⟨rfl, rfl⟩
    · have hbytes : ∀ b ∈ String.utf8EncodeChar c, (b != 10) = true := by
        intro b hb
        rw [bne_iff_ne]
        rintro rfl
        exact notMem_utf8EncodeChar hc hb
      have hchar : (c != '\n') = true := bne_iff_ne.2 hc
      rw [List.flatMap_cons, List.takeWhile_append_of_pos hbytes,
        List.dropWhile_append_of_pos hbytes, ih.1, ih.2]
      simp [hchar]

theorem utf8Bytes_ofList (cs : List Char) :
    utf8Bytes (String.ofList cs) = cs.flatMap String.utf8EncodeChar := by
  rw [utf8Bytes_eq_flatMap, String.toList_ofList]

/-- What follows the first newline in bytes is what follows it in the text. -/
theorem tail_dropWhile_utf8EncodeChar (cs : List Char) :
    ((cs.flatMap String.utf8EncodeChar).dropWhile (· != 10)).tail =
      (cs.dropWhile (· != '\n')).tail.flatMap String.utf8EncodeChar := by
  rw [(span_utf8EncodeChar cs).2]
  have hhead := List.head?_dropWhile_not (· != '\n') cs
  cases hrest : cs.dropWhile (· != '\n') with
  | nil => rfl
  | cons c ds =>
    rw [hrest] at hhead
    obtain rfl : c = '\n' := by simpa using hhead
    rfl

/-- The lines of a text are texts. -/
theorem splitLines_utf8EncodeChar {bytes : List UInt8} {cs : List Char}
    (hbytes : bytes = cs.flatMap String.utf8EncodeChar) :
    ∀ line ∈ splitLines bytes, ∃ s, line = utf8Bytes s := by
  fun_induction splitLines bytes generalizing cs with
  | case1 => nofun
  | case2 =>
    rename_i ih
    intro line hline
    rcases List.mem_cons.1 hline with rfl | hline
    · refine ⟨String.ofList (cs.takeWhile (· != '\n')), ?_⟩
      rw [utf8Bytes_ofList, ← (span_utf8EncodeChar cs).1, ← hbytes]
    · have hafter := tail_dropWhile_utf8EncodeChar cs
      rw [← hbytes] at hafter
      exact ih hafter line hline

theorem decodeLine?_utf8Bytes (s : String) :
    decodeLine? (utf8Bytes s) = some (lineText s.toList) := by
  have hbytes : ByteArray.mk (utf8Bytes s).toArray = s.toUTF8 := rfl
  rw [decodeLine?, hbytes, fromUTF8?_toUTF8]
  rfl

/-- Every line of some input is text. -/
def AreTexts (lines : List (List UInt8)) : Prop :=
  ∀ line ∈ lines, ∃ cs, decodeLine? line = some cs

theorem areTexts_splitLines (s : String) : AreTexts (splitLines (utf8Bytes s)) := by
  intro line hline
  obtain ⟨t, rfl⟩ := splitLines_utf8EncodeChar (utf8Bytes_eq_flatMap s) line hline
  exact ⟨_, decodeLine?_utf8Bytes t⟩

/-! ## The prompt -/

/-- The choice that a line stands for. -/
def lineChoice? (line : List UInt8) : Option UInt64 :=
  (decodeLine? line).bind readChoice?

/-- The choices among some lines. -/
def lineChoices (lines : List (List UInt8)) : List UInt64 :=
  lines.filterMap lineChoice?

theorem lt_of_readChoice? {cs : List Char} {index : UInt64} (h : readChoice? cs = some index) :
    index.toNat < optionCount := by
  unfold readChoice? at h
  split at h
  · rename_i n _
    split_ifs at h with hn
    rw [← Option.some.inj h, UInt64.toNat_ofNat_of_lt' (Nat.lt_trans hn (by decide))]
    exact hn
  · cases h

theorem lt_of_mem_lineChoices {lines : List (List UInt8)} {index : UInt64}
    (h : index ∈ lineChoices lines) : index.toNat < optionCount := by
  obtain ⟨line, -, hchoice⟩ := List.mem_filterMap.1 h
  obtain ⟨cs, -, hread⟩ := Option.bind_eq_some_iff.1 hchoice
  exact lt_of_readChoice? hread

/-- A transcript with something shown and some lines read before it. -/
def Transcript.after {α : Type} (t : Transcript α) (shown : Styled) (reads : Nat) : Transcript α :=
  ⟨shown ++ t.shown, reads + t.reads, t.outcome⟩

theorem Transcript.after_after {α : Type} (t : Transcript α) (shown shown' : Styled)
    (reads reads' : Nat) :
    (t.after shown reads).after shown' reads' = t.after (shown' ++ shown) (reads' + reads) := by
  simp only [after, List.append_assoc, Nat.add_assoc]

/-- A line of text that is no choice. -/
def IsRefused (line : List UInt8) : Prop :=
  ∃ cs, decodeLine? line = some cs ∧ readChoice? cs = none

/-- What is shown after so many lines that are no choice. -/
def askedAgain (refusals : Nat) : Styled :=
  (List.replicate refusals askAgain).flatten

/-- The turn of a question at the prompt: the lines that are refused, and then the line of its
choice. -/
structure Turn where
  question : Question
  refused : List (List UInt8)
  line : List UInt8
  index : UInt64
  isRefused : ∀ line ∈ refused, IsRefused line
  isChoice : lineChoice? line = some index

namespace Turn

/-- The lines that are read for the question. -/
def lines (turn : Turn) : List (List UInt8) :=
  turn.refused ++ [turn.line]

def answer (turn : Turn) : UInt32 × UInt64 :=
  (turn.question.id, turn.index)

def shown (turn : Turn) : Styled :=
  asked turn.question ++ askedAgain turn.refused.length

end Turn

/-! ## Lines that are refused -/

theorem lineChoice?_of_isRefused {line : List UInt8} (h : IsRefused line) :
    lineChoice? line = none := by
  obtain ⟨cs, hcs, hread⟩ := h
  rw [lineChoice?, hcs, Option.bind_some, hread]

theorem lineChoices_of_isRefused {refused : List (List UInt8)}
    (h : ∀ line ∈ refused, IsRefused line) : lineChoices refused = [] :=
  List.filterMap_eq_nil_iff.2 fun line hline => lineChoice?_of_isRefused (h line hline)

/-- A line of text is refused, or it is a choice. -/
theorem isRefused_or_lineChoice? {line : List UInt8} (h : ∃ cs, decodeLine? line = some cs) :
    IsRefused line ∨ ∃ index, lineChoice? line = some index := by
  obtain ⟨cs, hcs⟩ := h
  cases hread : readChoice? cs with
  | none => exact .inl ⟨cs, hcs, hread⟩
  | some index => exact .inr ⟨index, by rw [lineChoice?, hcs, Option.bind_some, hread]⟩

/-- Refused lines are asked for again, one by one, before anything else is read. -/
theorem awaitChoice_append {refused : List (List UInt8)} (h : ∀ line ∈ refused, IsRefused line)
    (lines : List (List UInt8)) :
    awaitChoice (refused ++ lines) =
      (awaitChoice lines).after (askedAgain refused.length) refused.length := by
  induction refused with
  | nil => simp [Transcript.after, askedAgain]
  | cons line refused ih =>
    obtain ⟨cs, hcs, hread⟩ := h line List.mem_cons_self
    have hstep : awaitChoice (line :: (refused ++ lines)) =
        (awaitChoice (refused ++ lines)).after askAgain 1 := by
      rw [awaitChoice, hcs]
      simp only [hread, Transcript.after, Nat.add_comm 1]
    have hagain : askAgain ++ askedAgain refused.length = askedAgain (refused.length + 1) := by
      rw [askedAgain, askedAgain, List.replicate_succ, List.flatten_cons]
    rw [List.cons_append, hstep, ih fun line hline => h line (List.mem_cons_of_mem _ hline),
      Transcript.after_after, hagain, List.length_cons, Nat.add_comm 1]

theorem awaitChoice_cons {line : List UInt8} {index : UInt64} (h : lineChoice? line = some index)
    (lines : List (List UInt8)) :
    awaitChoice (line :: lines) = ⟨[], 1, .ok (some (index, lines))⟩ := by
  obtain ⟨cs, hcs, hread⟩ := Option.bind_eq_some_iff.1 h
  rw [awaitChoice, hcs]
  simp only [hread]

/-- Lines of text are all refused, or the first of them that is not is a choice. -/
theorem forall_isRefused_or {lines : List (List UInt8)} (htexts : AreTexts lines) :
    (∀ line ∈ lines, IsRefused line) ∨
    ∃ refused line index rest, lines = refused ++ line :: rest ∧
      (∀ line ∈ refused, IsRefused line) ∧ lineChoice? line = some index ∧ AreTexts rest := by
  rcases forall_mem_or_exists_append IsRefused lines with
    hall | ⟨refused, line, rest, rfl, hrefused, hline⟩
  · exact .inl hall
  · have htext := htexts line (List.mem_append_right _ List.mem_cons_self)
    have hrest : AreTexts rest := fun line' hline' =>
      htexts line' (List.mem_append_right _ (List.mem_cons_of_mem _ hline'))
    obtain ⟨index, hindex⟩ := (isRefused_or_lineChoice? htext).resolve_left hline
    exact .inr ⟨refused, line, index, rest, rfl, hrefused, hindex, hrest⟩

/-! ## Turns -/

variable {all questions : List Question} {turns : List Turn}

theorem Turn.lineChoices_lines (turn : Turn) : lineChoices turn.lines = [turn.index] := by
  have hrefused : lineChoices turn.refused = [] := lineChoices_of_isRefused turn.isRefused
  rw [lineChoices] at hrefused ⊢
  rw [Turn.lines, List.filterMap_append, hrefused, List.nil_append,
    List.filterMap_cons_some turn.isChoice, List.filterMap_nil]

theorem Turn.isKnown {turn : Turn} (h : turn.question ∈ all) : Answers.IsKnown all turn.answer := by
  have hindex : turn.index ∈ lineChoices turn.lines := by
    rw [turn.lineChoices_lines]
    exact List.mem_singleton_self _
  exact ⟨List.mem_map_of_mem h, lt_of_mem_lineChoices hindex⟩

/-- A turn reads its lines and no more, and the next question goes on from there. -/
theorem ask_turn {turn : Turn} (h : turn.question ∈ all) (questions : List Question)
    (answers : Answers) (lines : List (List UInt8)) :
    ask all (turn.question :: questions) answers (turn.lines ++ lines) =
      (ask all questions (answers.putAll [turn.answer]) lines).after turn.shown
        turn.lines.length := by
  have hselect : answers.select all turn.question.id turn.index = _ :=
    Answers.select_of_isKnown (Turn.isKnown h) answers
  have hawait : awaitChoice (turn.lines ++ lines) =
      ⟨askedAgain turn.refused.length, turn.lines.length, .ok (some (turn.index, lines))⟩ := by
    rw [Turn.lines, List.append_assoc, awaitChoice_append turn.isRefused, List.singleton_append,
      awaitChoice_cons turn.isChoice, Transcript.after, List.append_nil, List.length_append,
      List.length_singleton]
  rw [ask, hawait]
  simp only [hselect]
  rfl

/-- A question whose lines are all refused is left without an answer when they end. -/
theorem ask_of_isRefused {refused : List (List UInt8)} (h : ∀ line ∈ refused, IsRefused line)
    (q : Question) (answers : Answers) :
    ask all (q :: questions) answers refused =
      ⟨asked q ++ askedAgain refused.length, refused.length + 1, .ok answers⟩ := by
  have hawait : awaitChoice refused =
      ⟨askedAgain refused.length, refused.length + 1, .ok none⟩ := by
    have happend := awaitChoice_append h []
    rw [List.append_nil] at happend
    rw [happend, awaitChoice, Transcript.after, List.append_nil]
  rw [ask, hawait]

theorem ask_turns (h : ∀ turn ∈ turns, turn.question ∈ all) (questions : List Question)
    (answers : Answers) (lines : List (List UInt8)) :
    ask all (turns.map Turn.question ++ questions) answers (turns.flatMap Turn.lines ++ lines) =
      (ask all questions (answers.putAll (turns.map Turn.answer)) lines).after
        (turns.flatMap Turn.shown) (turns.flatMap Turn.lines).length := by
  -- each turn leaves its answer and the lines behind it to the turns that follow
  induction turns generalizing answers with
  | nil => simp [Answers.putAll, Transcript.after]
  | cons turn turns ih =>
    have hquestions : (turn :: turns).map Turn.question ++ questions =
        turn.question :: (turns.map Turn.question ++ questions) := rfl
    have hanswers : answers.putAll ((turn :: turns).map Turn.answer) =
        (answers.putAll [turn.answer]).putAll (turns.map Turn.answer) := rfl
    rw [hquestions, hanswers, List.flatMap_cons, List.append_assoc,
      ask_turn (h turn List.mem_cons_self),
      ih fun turn' hturn' => h turn' (List.mem_cons_of_mem _ hturn'), Transcript.after_after,
      List.flatMap_cons, List.length_append]

/-- The questions of turns are paired with the choices of their lines. -/
theorem zip_turns (turns : List Turn) (questions : List Question) (lines : List (List UInt8)) :
    ((turns.map Turn.question ++ questions).map Question.id).zip
        (lineChoices (turns.flatMap Turn.lines ++ lines)) =
      turns.map Turn.answer ++ (questions.map Question.id).zip (lineChoices lines) := by
  induction turns with
  | nil => rfl
  | cons turn turns ih =>
    have hchoices : lineChoices ((turn :: turns).flatMap Turn.lines ++ lines) =
        turn.index :: lineChoices (turns.flatMap Turn.lines ++ lines) := by
      have hturn := turn.lineChoices_lines
      rw [lineChoices] at hturn ⊢
      rw [List.flatMap_cons, List.append_assoc, List.filterMap_append, hturn]
      rfl
    rw [hchoices]
    exact congrArg (turn.answer :: ·) ih

/-- The questions of a list have their turns on lines of text one after the other, as far as both
go: until no question is left, or one whose lines are all refused. -/
theorem exists_turns (questions : List Question) {lines : List (List UInt8)}
    (htexts : AreTexts lines) :
    ∃ turns : List Turn,
      (turns.map Turn.question = questions ∧ ∃ unread, lines = turns.flatMap Turn.lines ++ unread) ∨
      ∃ q later refused, questions = turns.map Turn.question ++ q :: later ∧
        lines = turns.flatMap Turn.lines ++ refused ∧ ∀ line ∈ refused, IsRefused line := by
  -- the next question goes on with the lines that the first one leaves, if it finds its choice
  induction questions generalizing lines with
  | nil => exact ⟨[], .inl ⟨rfl, lines, rfl⟩⟩
  | cons q questions ih =>
    rcases forall_isRefused_or htexts with
      hall | ⟨refused, line, index, rest, rfl, hrefused, hindex, hrest⟩
    · exact ⟨[], .inr ⟨q, questions, lines, rfl, rfl, hall⟩⟩
    · let turn : Turn := ⟨q, refused, line, index, hrefused, hindex⟩
      have hlines (turns : List Turn) (lines : List (List UInt8))
          (h : rest = turns.flatMap Turn.lines ++ lines) :
          refused ++ line :: rest = (turn :: turns).flatMap Turn.lines ++ lines := by
        simp [h, turn, Turn.lines]
      obtain ⟨turns, ⟨rfl, unread, hunread⟩ | ⟨q', later, refused', rfl, hlater, hrefused'⟩⟩ :=
        ih hrest
      · exact ⟨turn :: turns, .inl ⟨rfl, unread, hlines turns unread hunread⟩⟩
      · exact ⟨turn :: turns, .inr ⟨q', later, refused', rfl, hlines turns refused' hlater,
          hrefused'⟩⟩

/-- Where every question has its turn, the lines after the last turn are not read, whatever they
are. -/
theorem ask_of_answered (h : ∀ turn ∈ turns, turn.question ∈ all) (answers : Answers)
    (unread : List (List UInt8)) :
    ask all (turns.map Turn.question) answers (turns.flatMap Turn.lines ++ unread) =
      ⟨turns.flatMap Turn.shown, (turns.flatMap Turn.lines).length,
        .ok (answers.putAll (turns.map Turn.answer))⟩ := by
  have hask := ask_turns h [] answers unread
  rwa [List.append_nil, ask, Transcript.after, List.append_nil, Nat.add_zero] at hask

/-- Where the lines end at a question, it is asked again for each line that is left, and it and the
later questions have no answer. -/
theorem ask_of_ended (h : ∀ turn ∈ turns, turn.question ∈ all) {refused : List (List UInt8)}
    (hrefused : ∀ line ∈ refused, IsRefused line) (answers : Answers) (q : Question)
    (later : List Question) :
    ask all (turns.map Turn.question ++ q :: later) answers
        (turns.flatMap Turn.lines ++ refused) =
      ⟨turns.flatMap Turn.shown ++ (asked q ++ askedAgain refused.length),
        (turns.flatMap Turn.lines ++ refused).length + 1,
        .ok (answers.putAll (turns.map Turn.answer))⟩ := by
  rw [ask_turns h, ask_of_isRefused hrefused, Transcript.after, List.length_append, Nat.add_assoc]

theorem zip_of_answered (turns : List Turn) (unread : List (List UInt8)) :
    ((turns.map Turn.question).map Question.id).zip
      (lineChoices (turns.flatMap Turn.lines ++ unread)) = turns.map Turn.answer := by
  have hzip := zip_turns turns [] unread
  rwa [List.append_nil, List.map_nil, List.zip_nil_left, List.append_nil] at hzip

theorem zip_of_ended {refused : List (List UInt8)} (hrefused : ∀ line ∈ refused, IsRefused line)
    (turns : List Turn) (questions : List Question) :
    ((turns.map Turn.question ++ questions).map Question.id).zip
      (lineChoices (turns.flatMap Turn.lines ++ refused)) = turns.map Turn.answer := by
  rw [zip_turns, lineChoices_of_isRefused hrefused, List.zip_nil_right, List.append_nil]

/-- Questions that are asked get the choices among the lines, one each. -/
theorem outcome_ask (hsubset : questions ⊆ all) (answers : Answers)
    {lines : List (List UInt8)} (htexts : AreTexts lines) :
    (ask all questions answers lines).outcome =
      .ok (answers.putAll ((questions.map Question.id).zip (lineChoices lines))) := by
  obtain ⟨turns, ⟨rfl, unread, rfl⟩ | ⟨q, later, refused, rfl, rfl, hrefused⟩⟩ :=
    exists_turns questions htexts
  · have hmem (turn : Turn) (hturn : turn ∈ turns) : turn.question ∈ all :=
      hsubset (List.mem_map_of_mem hturn)
    rw [ask_of_answered hmem, zip_of_answered]
  · have hmem (turn : Turn) (hturn : turn ∈ turns) : turn.question ∈ all :=
      hsubset (List.mem_append_left _ (List.mem_map_of_mem hturn))
    rw [ask_of_ended hmem hrefused, zip_of_ended hrefused]

end Questionnaire

end Temperament
