import Temperament.Proofs.Invocation
import Temperament.Proofs.Questionnaire
import Temperament.Proofs.Run.Program

/-!
# Two ways of answering

An assessment by answers typed at the prompt and one by the same answers on the command line end
alike (`runProgram_answering`).  Once the answers are collected both do the same work, and work adds
to what was shown and noted without looking at it (`Adds`).
-/

namespace Temperament

open Journal

/-! ## Work behind other work -/

/-- A state in which more was shown and noted before. -/
def RunState.behind (st : RunState) (shown : Styled) (events : List Event) : RunState :=
  { st with shown := shown ++ st.shown, events := events ++ st.events }

namespace Work

variable {α β : Type}

def behind (shown : Styled) (events : List Event) :
    EStateM.Result Fault RunState α → EStateM.Result Fault RunState α
  | .ok a st => .ok a (st.behind shown events)
  | .error fault st => .error fault (st.behind shown events)

/-- What work shows and notes comes after what was shown and noted before, and does not depend on
it. -/
def Adds (w : Work α) : Prop :=
  ∀ st shown events, w (st.behind shown events) = behind shown events (w st)

theorem adds_pure (a : α) : Adds (pure a) := fun _ _ _ => rfl

theorem Adds.bind {w : Work α} {f : α → Work β} (hw : Adds w) (hf : ∀ a, Adds (f a)) :
    Adds (w >>= f) := by
  intro st shown events
  rw [bind_apply, bind_apply, hw]
  cases w st with
  | ok a st' => exact hf a st' shown events
  | error => rfl

theorem adds_ofExcept (x : Except Fault α) : Adds (ofExcept x) := by
  cases x <;> exact fun _ _ _ => rfl

theorem adds_filing (x : Filing α) : Adds (filing x) := by
  intro st shown events
  have hfiles : (st.behind shown events).files = st.files := rfl
  rw [filing, filing, hfiles]
  cases x st.files <;> rfl

theorem showText_apply (t : Styled) (st : RunState) :
    showText t st = .ok ⟨⟩ { st with shown := st.shown ++ t } :=
  rfl

theorem note_apply (e : Event) (st : RunState) :
    note e st = .ok ⟨⟩ { st with events := st.events ++ [e] } :=
  rfl

theorem adds_showText (t : Styled) : Adds (showText t) := by
  intro st shown events
  rw [showText_apply, showText_apply]
  simp [behind, RunState.behind]

theorem adds_note (e : Event) : Adds (note e) := by
  intro st shown events
  rw [note_apply, note_apply]
  simp [behind, RunState.behind]

theorem adds_forM_note (f : α → Event) (l : List α) : Adds (l.forM fun a => note (f a)) := by
  induction l with
  | nil => exact adds_pure _
  | cons a l ih => exact (adds_note (f a)).bind fun _ => ih

theorem adds_loadProfile (s : Scratch) : Adds (loadProfile s) :=
  (adds_filing _).bind fun _ => (adds_forM_note _ _).bind fun _ => adds_pure _

theorem adds_saveProfile (s : Scratch) (p : Profile) : Adds (saveProfile s p) :=
  (adds_filing _).bind fun _ => adds_forM_note _ _

/-! ## Assessments -/

/-- What an assessment does with its answers. -/
def conclude (s : Scratch) (v : Verbosity) (answers : Answers) : Work Unit := do
  ofExcept (answers.ensureComplete Question.builtin)
  let board := answers.tally Question.builtin
  let c := answers.classify Question.builtin
  note (Events.classified answers board c)
  let profile ← loadProfile s
  saveProfile s { profile with category := some c }
  note (Events.storedAssessment c)
  if v.showsDetails then
    showText (View.assessment c (some board))
    showText hint
  else
    showText (View.assessment c none)

theorem adds_conclude (s : Scratch) (v : Verbosity) (answers : Answers) :
    Adds (conclude s v answers) := by
  refine (adds_ofExcept _).bind fun _ => (adds_note _).bind fun _ => ?_
  refine (adds_loadProfile s).bind fun p => (adds_saveProfile s _).bind fun _ => ?_
  refine (adds_note _).bind fun _ => ?_
  split
  · exact (adds_showText _).bind fun _ => adds_showText _
  · exact adds_showText _

theorem forM_note_apply (l : List Event) (st : RunState) :
    l.forM note st = .ok ⟨⟩ { st with events := st.events ++ l } := by
  induction l generalizing st with
  | nil =>
    rw [List.append_nil]
    rfl
  | cons e l ih =>
    show l.forM note { st with events := st.events ++ [e] } = _
    rw [ih, List.append_assoc]
    rfl

theorem forM_note_map_apply {α : Type} (f : α → Event) (l : List α) (st : RunState) :
    (l.forM fun a => note (f a)) st = .ok ⟨⟩ { st with events := st.events ++ l.map f } := by
  have hmap : (l.forM fun a => note (f a)) = (l.map f).forM note :=
    List.forM_map.symm
  rw [hmap, forM_note_apply]

theorem conclude_of_incomplete {s : Scratch} {v : Verbosity} {answers : Answers} {fault : Fault}
    (h : answers.ensureComplete Question.builtin = .error fault) (st : RunState) :
    conclude s v answers st = .error fault st := by
  rw [conclude, h]
  rfl

/-- What is noted while an input is read at the prompt. -/
def reading (input : List UInt8) : List Event :=
  List.replicate (Questionnaire.run Question.builtin input).reads Events.readsPipe

theorem assess_input {s : Scratch} {v : Verbosity} {input : List UInt8} {answers : Answers}
    (h : (Questionnaire.run Question.builtin input).outcome = .ok answers) (files : Files)
    (events : List Event) :
    assess s v [] input { files, events } =
      behind (Questionnaire.run Question.builtin input).shown (events ++ reading input)
        (conclude s v answers { files }) := by
  have hask : ask Question.builtin input { files, events } = .ok answers
      ⟨files, (Questionnaire.run Question.builtin input).shown, events ++ reading input⟩ := by
    rw [ask, bind_apply, showText_apply]
    simp only [bind_apply, forM_note_apply, h]
    rfl
  have hassess : assess s v [] input = ask Question.builtin input >>= conclude s v := rfl
  have hbehind := adds_conclude s v answers { files }
    (Questionnaire.run Question.builtin input).shown (events ++ reading input)
  rw [hassess, bind_apply, hask, ← hbehind]
  simp [RunState.behind]

theorem assess_specs {s : Scratch} {v : Verbosity} {specs : List String} {answers : Answers}
    (hspecs : specs ≠ []) (h : Questionnaire.answerSpecs Question.builtin specs = .ok answers)
    (input : List UInt8) (files : Files) (events : List Event) :
    assess s v specs input { files, events } =
      behind [] events (conclude s v answers { files }) := by
  have hassess : assess s v specs input =
      ofExcept (Questionnaire.answerSpecs Question.builtin specs) >>= conclude s v := by
    rw [assess, if_neg (by simpa using hspecs)]
    rfl
  have hbehind := adds_conclude s v answers { files } [] events
  rw [hassess, bind_apply, h, ← hbehind]
  simp [RunState.behind, ofExcept, pure_apply]

end Work

/-! ## Outcomes -/

/-- The report of the fault that ends a run, if one does. -/
def report : Option Fault → String
  | some fault => s!"Error: {fault.message}\n"
  | none => ""

/-- Two runs end alike, well or with a fault, where the first also shows something before all that the
other shows, and notes something.  The notes of a run stand before its report. -/
structure Outcome.EndAlike (filter : Filter) (shown : String) (noted : List Event)
    (fault : Option Fault) (first second : Outcome) : Prop where
  exit_eq : first.exit = second.exit
  exit_eq_zero_iff : second.exit = 0 ↔ fault = none
  files_eq : first.files = second.files
  output_eq : first.output = shown ++ second.output
  errors_eq : ∃ before after,
    first.errors = Journal.text filter (before ++ noted ++ after) ++ report fault ∧
    second.errors = Journal.text filter (before ++ after) ++ report fault

theorem Styled.render_append (inColour : Bool) (t t' : Styled) :
    Styled.render inColour (t ++ t') = Styled.render inColour t ++ Styled.render inColour t' := by
  rw [Styled.render, Styled.render, Styled.render, List.map_append, String.join_append]

namespace Invocation

/-- The fault that work ends with. -/
def fault? : EStateM.Result Fault RunState Unit → Option Fault
  | .ok _ _ => none
  | .error fault _ => some fault

/-- The outcome of a run whose command has come to a result. -/
def outcomeOf (filter : Filter) (inColour : Bool) :
    EStateM.Result Fault RunState Unit → Outcome
  | .ok _ st => ⟨0, st.shown.render inColour, Journal.text filter st.events, st.files⟩
  | .error fault st =>
    ⟨1, st.shown.render inColour, Journal.text filter st.events ++ report (some fault), st.files⟩

theorem outcome_eq (i : Invocation) (around : Surroundings) (settings : Settings) (files : Files) :
    i.outcome around settings files =
      outcomeOf (Filter.choose around.log (i.verbosity settings.verbosity))
        (around.isColoured && i.allowsColour settings) (i.perform around settings { files }) := by
  rw [outcome]
  cases i.perform around settings { files } <;> rfl

/-- The same work behind different notes ends alike. -/
theorem endAlike_behind (filter : Filter) (inColour : Bool) (shown : Styled)
    (before noted : List Event) (r : EStateM.Result Fault RunState Unit) :
    (outcomeOf filter inColour (Work.behind shown (before ++ noted) r)).EndAlike filter
      (shown.render inColour) noted (fault? r)
      (outcomeOf filter inColour (Work.behind [] before r)) := by
  cases r with
  | ok _ st =>
    refine ⟨rfl, by simp [outcomeOf, Work.behind, fault?], rfl,
      Styled.render_append inColour shown st.shown, before, st.events, ?_, ?_⟩
    · exact String.append_empty.symm
    · exact String.append_empty.symm
  | error fault st =>
    exact ⟨rfl, by simp [outcomeOf, Work.behind, fault?], rfl,
      Styled.render_append inColour shown st.shown, before, st.events, rfl, rfl⟩

theorem perform_assess {i : Invocation} {specs : List String}
    (hcommand : i.command = some (.assess specs)) (around : Surroundings) (settings : Settings)
    (files : Files) :
    i.perform around settings { files } =
      Work.assess ⟨i.storeFolder around.home settings⟩ (i.verbosity settings.verbosity) specs
        around.input
        { files, events := [Events.usingStorage ⟨i.storeFolder around.home settings⟩] } := by
  rw [perform, hcommand]
  rfl

end Invocation

/-! ## Both ways -/

/-- The specs of choices for the built-in questions, one for each question in order. -/
def choiceSpecs (choices : List UInt64) : List String :=
  List.zipWith (fun id index => Questionnaire.spec (id, index)) [1, 2, 3, 4, 5] choices

theorem choiceSpecs_eq (choices : List UInt64) :
    choiceSpecs choices =
      ((Question.builtin.map Question.id).zip choices).map Questionnaire.spec := by
  rw [List.zip_eq_zipWith, List.map_zipWith]
  rfl

theorem nodup_builtin : (Question.builtin.map Question.id).Nodup := by decide

theorem head?_of_mem_choiceSpecs {choices : List UInt64} {spec : String}
    (h : spec ∈ choiceSpecs choices) : spec.toList.head? ≠ some '-' := by
  rw [choiceSpecs_eq] at h
  obtain ⟨answer, -, rfl⟩ := List.mem_map.1 h
  obtain ⟨d, ds, hd, hdigit⟩ := Text.digits_eq_cons answer.1.toNat
  rw [Questionnaire.toList_spec, hd]
  exact fun hhead => Text.ne_of_isDigit hdigit rfl (Option.some.inj hhead)

/-- Typed choices and specs of them give the same answers. -/
theorem exists_answers {typed : String} {input : List UInt8} (hinput : input = Text.utf8Bytes typed)
    {specs : List String}
    (hspecs : specs.Perm (choiceSpecs (Questionnaire.accepted Question.builtin input))) :
    ∃ answers : Answers, (Questionnaire.run Question.builtin input).outcome = .ok answers ∧
      Questionnaire.answerSpecs Question.builtin specs = .ok answers ∧
      ((Questionnaire.accepted Question.builtin input).length < 5 →
        answers.ensureComplete Question.builtin =
          .error (.incomplete (Questionnaire.accepted Question.builtin input).length 5)) := by
  have htexts : Questionnaire.AreTexts (Questionnaire.splitLines input) := by
    rw [hinput]
    exact Questionnaire.areTexts_splitLines typed
  rw [choiceSpecs_eq] at hspecs
  refine ⟨_, Questionnaire.outcome_run htexts, Questionnaire.answerSpecs_perm ?_ ?_ hspecs, ?_⟩
  · exact fun answer hanswer => Questionnaire.isKnown_of_mem_zip hanswer
  · rw [Answers.map_fst_zip]
    exact nodup_builtin.sublist (List.take_sublist _ _)
  · exact fun hlength => Answers.ensureComplete_of_length_lt nodup_builtin hlength

/-- An assessment whose answers are typed and one with the same answers on the command line, in any
order, end alike: the first shows the questionnaire as well, and notes every line that it reads.
Fewer choices than questions are an incomplete assessment. -/
theorem runProgram_answering {args : List String} {i : Invocation} {around : Surroundings}
    {files files' : Files} {settings : Settings} {typed : String} {specs : List String}
    (hparse : Invocation.parse args = .ok i) (hcommand : i.command = some (.assess []))
    (hload : Settings.loadFrom around.home i.config files = .ok settings files')
    (hinput : around.input = Text.utf8Bytes typed)
    (hchoices : Questionnaire.accepted Question.builtin around.input ≠ [])
    (hspecs : specs.Perm (choiceSpecs (Questionnaire.accepted Question.builtin around.input))) :
    ("--" ∉ args → Invocation.parse (args ++ Invocation.answerFlags specs) =
      .ok { i with command := some (.assess specs) }) ∧
    ∀ (args' : List String) (input : List UInt8),
      Invocation.parse args' = .ok { i with command := some (.assess specs) } →
      ∃ fault, (runProgram args around files).EndAlike
          (Filter.choose around.log (i.verbosity settings.verbosity))
          ((Questionnaire.run Question.builtin around.input).shown.render
            (around.isColoured && i.allowsColour settings))
          (Work.reading around.input) fault
          (runProgram args' { around with input } files) ∧
        ((Questionnaire.accepted Question.builtin around.input).length < 5 → fault =
          some (.incomplete (Questionnaire.accepted Question.builtin around.input).length 5)) := by
  obtain ⟨answers, hrun, hanswers, hincomplete⟩ := exists_answers hinput hspecs
  have hne : specs ≠ [] := by
    rintro rfl
    have hnil := List.nil_perm.1 hspecs
    rw [choiceSpecs, List.zipWith_eq_nil_iff] at hnil
    exact hnil.elim nofun hchoices
  have hheads : ∀ spec ∈ specs, spec.toList.head? ≠ some '-' := fun spec hspec =>
    head?_of_mem_choiceSpecs (hspecs.mem_iff.1 hspec)
  refine ⟨fun hargs => Invocation.parse_append_answerFlags hargs hheads hparse hcommand,
    fun args' input hparse' => ?_⟩
  have hasked : runProgram args around files = i.outcome around settings files' := by
    rw [runProgram, hparse]
    simp only [Invocation.run, hload]
  have hgiven : runProgram args' { around with input } files =
      Invocation.outcome { i with command := some (.assess specs) } { around with input } settings
        files' := by
    rw [runProgram, hparse']
    simp only [Invocation.run, hload]
  -- Both come to the same conclusion, each behind what it has shown and noted before.
  rw [hasked, hgiven, Invocation.outcome_eq, Invocation.outcome_eq,
    Invocation.perform_assess hcommand, Invocation.perform_assess rfl, Work.assess_input hrun,
    Work.assess_specs hne hanswers]
  refine ⟨_, Invocation.endAlike_behind _ _ _ [_] _ _, fun hlength => ?_⟩
  rw [Work.conclude_of_incomplete (hincomplete hlength)]
  rfl

/-- An input with two choices, and a line between them that is none. -/
def typedTwo : Surroundings :=
  { Surroundings.quiet with input := Text.utf8Bytes "2\n4\n 1" }

theorem runProgram_answering_two :
    (runProgram ["assess"] typedTwo {}).EndAlike (Filter.choose none .normal)
      ((Questionnaire.run Question.builtin typedTwo.input).shown.render false)
      (Work.reading typedTwo.input) (some (.incomplete 2 5))
      (runProgram ["assess", "-a", "2=1", "-a", "1=2"] .quiet {}) := by
  have hparse : Invocation.parse ["assess"] = .ok { command := some (.assess []) } := by
    decide +kernel
  have hparse' : Invocation.parse ["assess", "-a", "2=1", "-a", "1=2"] =
      .ok { command := some (.assess ["2=1", "1=2"]) } := by
    decide +kernel
  have hload : Settings.loadFrom typedTwo.home none {} = .ok {} {} := by
    have hnone : Files.contains {} (Settings.defaultPath typedTwo.home) = false := by
      decide +kernel
    rw [Settings.loadFrom, bind_apply, get_apply]
    simp only [hnone]
    rfl
  have haccepted : Questionnaire.accepted Question.builtin typedTwo.input = [2, 1] := by
    decide +kernel
  have hspecs : ["2=1", "1=2"].Perm
      (choiceSpecs (Questionnaire.accepted Question.builtin typedTwo.input)) := by
    rw [haccepted]
    exact List.Perm.swap _ _ _
  obtain ⟨-, hall⟩ := runProgram_answering hparse rfl hload rfl
    (by rw [haccepted]; exact List.cons_ne_nil _ _) hspecs
  obtain ⟨fault, halike, hincomplete⟩ := hall _ [] hparse'
  rw [haccepted] at hincomplete
  rwa [hincomplete (by decide)] at halike

end Temperament
