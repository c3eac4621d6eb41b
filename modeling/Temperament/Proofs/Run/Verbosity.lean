import Temperament.Proofs.Run.Answering

/-!
# Runs that differ in verbosity

The verbosity of a run and its log filter have no say in what it does (`runProgram_verbosity`).  A
command ends in the same way for every verbosity, which at most chooses among the texts shown at its
end (`VariesAt`): an assessment shows its scores and a hint unless it is quiet, and the view of the
settings names the verbosity.
-/

namespace Temperament

open Journal

/-! ## Invocations without their verbosity -/

namespace Invocation

/-- The invocation with another number of `-v`, and with or without `-q`. -/
def withVoice (i : Invocation) (count : UInt8) (isQuiet : Bool) : Invocation :=
  { i with verbose := count, isQuiet }

/-- The invocation without `-v` and `-q`. -/
def muted (i : Invocation) : Invocation :=
  i.withVoice 0 false

theorem exists_withVoice {i i' : Invocation} (h : i.muted = i'.muted) :
    ∃ count isQuiet, i' = i.withVoice count isQuiet := by
  have hvoice (j : Invocation) : j = j.muted.withVoice j.verbose j.isQuiet := rfl
  refine ⟨i'.verbose, i'.isQuiet, ?_⟩
  calc
    i' = i'.muted.withVoice i'.verbose i'.isQuiet := hvoice i'
    _ = i.muted.withVoice i'.verbose i'.isQuiet := by rw [h]
    _ = i.withVoice i'.verbose i'.isQuiet := rfl

end Invocation

/-! ## Texts that go by the verbosity -/

namespace View

/-- What an assessment shows behind its outcome unless it is quiet. -/
def details (board : Scoreboard) : Styled :=
  board.breakdown.flatMap scoreLine ++ Work.hint

def verbosityLine (v : Verbosity) : String :=
  "  Verbosity:       " ++ v.name ++ "\n"

theorem assessment_some (c : Category) (board : Scoreboard) :
    assessment c (some board) = assessment c none ++ board.breakdown.flatMap scoreLine := by
  rw [assessment, assessment, Option.map_none, Option.getD_none, List.append_nil]
  rfl

theorem render_line_plain (inColour : Bool) (s : String) :
    Styled.render inColour (line (plain s)) = s ++ "\n" := by
  cases inColour <;> simp [Styled.render, line, plain, newline, Span.render, Span.coloured, Style.codes]

/-- The view of the settings names the verbosity in one line. -/
theorem exists_settingsView (settings : Settings) (source : String) (s : Scratch) (isColoured : Bool) :
    ∃ above below, ∀ v, Work.settingsView settings source s v isColoured =
      above ++ line (plain ("  Verbosity:       " ++ v.name)) ++ below := by
  refine ⟨line ((Style.boldInColour .cyan).apply "huidong configuration") ++
      [s!"  Source:          {source}", "", "Paths:", s!"  State dir:       {s.folder}",
        s!"  Scratch file:    {s.path}", "", "Display:"].flatMap fun l => line (plain l),
    ["  Color output:    " ++ (if isColoured then "enabled" else "disabled"), "",
      "Progress defaults:", s!"  Target learning: {settings.targets.learning}",
      s!"  Target sports:   {settings.targets.sports}"].flatMap fun l => line (plain l), fun v => ?_⟩
  rfl

end View

/-! ## Work that goes by the verbosity -/

namespace Work

/-- Work that comes from a state to the same end for every verbosity.  If it ends well, what it has
shown is a text of the verbosity that is good. -/
inductive VariesAt (w : Verbosity → Work Unit) (st : RunState)
    (good : (Verbosity → Styled) → Prop) : Prop
  | fails (fault : Fault) (st' : RunState) (h : ∀ v, w v st = .error fault st')
  | ends (st' : RunState) (text : Verbosity → Styled) (hgood : good text)
      (h : ∀ v, w v st = .ok ⟨⟩ { st' with shown := text v })

section Rules

variable {α : Type} {st : RunState} {good : (Verbosity → Styled) → Prop}

theorem variesAt_const (w : Work Unit) (hgood : ∀ text, good fun _ => text) :
    VariesAt (fun _ => w) st good := by
  cases hw : w st with
  | ok _ st' => exact .ends st' (fun _ => st'.shown) (hgood _) fun _ => hw
  | error fault st' => exact .fails fault st' fun _ => hw

theorem variesAt_showText {text : Verbosity → Styled} (hgood : good fun v => st.shown ++ text v) :
    VariesAt (fun v => showText (text v)) st good :=
  .ends st _ hgood fun _ => rfl

/-- Only what comes last goes by the verbosity. -/
theorem variesAt_bind {lead : Work α} {f : α → Verbosity → Work Unit}
    (hf : ∀ a st', lead st = .ok a st' → VariesAt (f a) st' good) :
    VariesAt (fun v => lead >>= fun a => f a v) st good := by
  cases hlead : lead st with
  | error fault st' => exact .fails fault st' fun v => by rw [bind_apply, hlead]
  | ok a st' =>
    have happly (v : Verbosity) : (lead >>= fun a => f a v) st = f a v st' := by
      rw [bind_apply, hlead]
    cases hf a st' hlead with
    | fails fault st'' h => exact .fails fault st'' fun v => (happly v).trans (h v)
    | ends st'' text hgood h => exact .ends st'' text hgood fun v => (happly v).trans (h v)

end Rules

/-! ## Commands -/

theorem collected_of_eq_ok {specs : List String} {input : List UInt8} {answers : Answers}
    {st st' : RunState}
    (h : (if specs.isEmpty then ask Question.builtin input
        else ofExcept (Questionnaire.answerSpecs Question.builtin specs)) st = .ok answers st') :
    collected specs input = .ok answers := by
  have hends : Ends _ st _ _ := ends_collect specs input
  unfold Ends at hends
  rw [h] at hends
  exact hends.1

/-- The text that an assessment shows at its end is the one it shows when it is quiet, and the details
behind it if it is not. -/
def TellsScores (specs : List String) (input : List UInt8) (text : Verbosity → Styled) : Prop :=
  ∃ answers quiet, collected specs input = .ok answers ∧ ∀ v, text v =
    quiet ++ if v = .quiet then [] else View.details (answers.tally Question.builtin)

theorem showAssessment_apply (v : Verbosity) (c : Category) (board : Scoreboard) (st : RunState) :
    (if v.showsDetails then do
        showText (View.assessment c (some board))
        showText hint
      else showText (View.assessment c none)) st =
    .ok ⟨⟩ { st with shown :=
      st.shown ++ View.assessment c none ++ if v = .quiet then [] else View.details board } := by
  by_cases hv : v = .quiet
  · rw [if_pos hv, hv, List.append_nil]
    rfl
  · have hdetails : v.showsDetails = true := by simp [Verbosity.showsDetails, hv]
    rw [if_neg hv, if_pos hdetails]
    simp only [bind_apply, showText_apply, View.assessment_some, View.details, List.append_assoc]

theorem variesAt_conclude {s : Scratch} {specs : List String} {input : List UInt8}
    {answers : Answers} (hanswers : collected specs input = .ok answers) (st : RunState) :
    VariesAt (fun v => conclude s v answers) st (TellsScores specs input) :=
  variesAt_bind fun _ _ _ => variesAt_bind fun _ _ _ => variesAt_bind fun _ _ _ =>
    variesAt_bind fun _ _ _ => variesAt_bind fun _ st' _ =>
      .ends st' _ ⟨answers, _, hanswers, fun _ => rfl⟩ fun v => showAssessment_apply v _ _ st'

theorem variesAt_assess (s : Scratch) (specs : List String) (input : List UInt8) (st : RunState) :
    VariesAt (fun v => assess s v specs input) st (TellsScores specs input) := by
  have hassess (v : Verbosity) : assess s v specs input =
      (if specs.isEmpty then ask Question.builtin input
        else ofExcept (Questionnaire.answerSpecs Question.builtin specs)) >>=
      fun answers => conclude s v answers := by
    rw [assess]
    split <;> rfl
  simp only [hassess]
  exact variesAt_bind fun answers st' h => variesAt_conclude (collected_of_eq_ok h) st'

/-- The view of the settings names the verbosity in one line. -/
def NamesVerbosity (text : Verbosity → Styled) : Prop :=
  ∃ above below, ∀ v, text v =
    above ++ View.line (plain ("  Verbosity:       " ++ v.name)) ++ below

theorem variesAt_showSettings (settings : Settings) (path : String) (s : Scratch)
    (isColoured : Bool) (st : RunState) :
    VariesAt (fun v => showSettings settings path s v isColoured) st NamesVerbosity := by
  refine variesAt_bind fun st₁ st' _ => variesAt_showText ?_
  obtain ⟨above, below, h⟩ := View.exists_settingsView settings
    (if st₁.files.contains path then path else "built-in defaults") s isColoured
  refine ⟨st'.shown ++ above, below, fun v => ?_⟩
  simp only [h, List.append_assoc]

end Work

/-! ## Runs -/

namespace Invocation

/-- How the text that a command shows goes by the verbosity. -/
def GoesBy (command : Option Command) (input : List UInt8) (text : Verbosity → Styled) : Prop :=
  match command with
  | some (.assess specs) => Work.TellsScores specs input text
  | some (.config _) => Work.NamesVerbosity text
  | _ => ∀ v, text v = text .quiet

/-- What a command does, with the verbosity that it goes by. -/
def work (i : Invocation) (around : Surroundings) (settings : Settings) (v : Verbosity) : Work Unit :=
  let s := i.scratch around.home settings
  let path := i.settingsPath around.home
  match i.command with
  | some (.assess specs) => Work.note (Events.usingStorage s) >>= fun _ =>
      Work.assess s v specs around.input
  | some (.config true) => Work.note (Events.usingStorage s) >>= fun _ =>
      Work.initSettings path >>= fun _ =>
      Work.showSettings settings path s v (i.allowsColour settings)
  | some (.config false) => Work.note (Events.usingStorage s) >>= fun _ =>
      Work.showSettings settings path s v (i.allowsColour settings)
  | _ => i.perform around settings

/-- Neither the log filter nor the verbosity has a further say in what a command does. -/
theorem perform_withVoice (i : Invocation) (around : Surroundings) (settings : Settings)
    (count : UInt8) (isQuiet : Bool) (log : Option String) :
    (i.withVoice count isQuiet).perform { around with log } settings =
      i.work around settings ((i.withVoice count isQuiet).verbosity settings.verbosity) := by
  obtain ⟨config, stateDir, verbose, isQuiet', noColor, command⟩ := i
  rcases command with _ | (_ | specs | _ | report | init | _)
  case some.config => cases init <;> rfl
  all_goals rfl

theorem variesAt_work (i : Invocation) (around : Surroundings) (settings : Settings)
    (st : RunState) :
    Work.VariesAt (i.work around settings) st (GoesBy i.command around.input) := by
  unfold work GoesBy
  rcases i.command with _ | (_ | specs | _ | report | init | _)
  case some.assess =>
    exact Work.variesAt_bind fun _ st' _ => Work.variesAt_assess _ specs around.input st'
  case some.config =>
    cases init with
    | true => exact Work.variesAt_bind fun _ _ _ => Work.variesAt_bind fun _ st' _ =>
        Work.variesAt_showSettings _ _ _ _ st'
    | false => exact Work.variesAt_bind fun _ st' _ => Work.variesAt_showSettings _ _ _ _ st'
  all_goals exact Work.variesAt_const _ fun _ _ => rfl

/-- An outcome with the given parts and some log. -/
def Ends (o : Outcome) (exit : UInt32) (output : String) (files : Files) : Prop :=
  o.exit = exit ∧ o.output = output ∧ o.files = files

theorem outcome_withVoice (i : Invocation) (around : Surroundings) (settings : Settings)
    (files : Files) :
    (∃ output files', ∀ count isQuiet log,
      Ends ((i.withVoice count isQuiet).outcome { around with log } settings files) 1 output
        files') ∨
    ∃ text files', GoesBy i.command around.input text ∧ ∀ count isQuiet log,
      Ends ((i.withVoice count isQuiet).outcome { around with log } settings files) 0
        ((text ((i.withVoice count isQuiet).verbosity settings.verbosity)).render
          (around.isColoured && i.allowsColour settings)) files' := by
  cases i.variesAt_work around settings { files } with
  | fails fault st' h =>
    refine .inl ⟨st'.shown.render (around.isColoured && i.allowsColour settings), st'.files,
      fun count isQuiet log => ?_⟩
    rw [outcome_eq, perform_withVoice, h]
    exact ⟨rfl, rfl, rfl⟩
  | ends st' text hgood h =>
    refine .inr ⟨text, st'.files, hgood, fun count isQuiet log => ?_⟩
    rw [outcome_eq, perform_withVoice, h]
    exact ⟨rfl, rfl, rfl⟩

/-- What an assessment that shows its scores adds to its output. -/
def detailsText (inColour : Bool) (answers : Answers) (v : Verbosity) : String :=
  if v = .quiet then "" else (View.details (answers.tally Question.builtin)).render inColour

/-- How the outputs of two runs of a command compare that ended well with two verbosities. -/
def OutputsAgree (command : Option Command) (input : List UInt8) (inColour : Bool)
    (v v' : Verbosity) (output output' : String) : Prop :=
  match command with
  | some (.assess specs) => ∃ answers quiet, Work.collected specs input = .ok answers ∧
      output = quiet ++ detailsText inColour answers v ∧
      output' = quiet ++ detailsText inColour answers v'
  | some (.config _) => ∃ above below, output = above ++ View.verbosityLine v ++ below ∧
      output' = above ++ View.verbosityLine v' ++ below
  | _ => output = output'

theorem outputsAgree_render {command : Option Command} {input : List UInt8}
    {text : Verbosity → Styled} (h : GoesBy command input text) (inColour : Bool)
    (v v' : Verbosity) : OutputsAgree command input inColour v v' ((text v).render inColour)
      ((text v').render inColour) := by
  unfold GoesBy at h
  unfold OutputsAgree
  split at h
  · obtain ⟨answers, quiet, hanswers, htext⟩ := h
    have hrender (u : Verbosity) : (text u).render inColour =
        quiet.render inColour ++ detailsText inColour answers u := by
      rw [htext, Styled.render_append, detailsText]
      split <;> rfl
    exact ⟨answers, quiet.render inColour, hanswers, hrender v, hrender v'⟩
  · obtain ⟨above, below, htext⟩ := h
    have hrender (u : Verbosity) : (text u).render inColour =
        above.render inColour ++ View.verbosityLine u ++ below.render inColour := by
      rw [htext, Styled.render_append, Styled.render_append, View.render_line_plain]
      rfl
    exact ⟨_, _, hrender v, hrender v'⟩
  · rw [h v, h v']

/-- Both runs end well and their outputs agree, or both fail and their outputs are the same. -/
theorem run_withVoice (i : Invocation) (count : UInt8) (isQuiet : Bool) (around : Surroundings)
    (log : Option String) (files : Files) :
    let first := i.run around files
    let second := (i.withVoice count isQuiet).run { around with log } files
    first.exit = second.exit ∧ first.files = second.files ∧
      (first.exit ≠ 0 → first.output = second.output) ∧
      (first.exit = 0 → ∃ settings,
        Settings.loadFrom around.home i.config files = .ok settings files ∧
        OutputsAgree i.command around.input (around.isColoured && i.allowsColour settings)
          (i.verbosity settings.verbosity) ((i.withVoice count isQuiet).verbosity settings.verbosity)
          first.output second.output) := by
  intro first second
  rcases Settings.loadFrom_cases around.home i.config files with ⟨settings, hload, -⟩ |
    ⟨fault, hload⟩
  · have hfirst : first = (i.withVoice i.verbose i.isQuiet).outcome
        { around with log := around.log } settings files := run_of_load hload
    have hsecond : second = (i.withVoice count isQuiet).outcome { around with log } settings
        files := run_of_load hload
    rcases i.outcome_withVoice around settings files with ⟨output, files', h⟩ |
      ⟨text, files', hgood, h⟩
    · obtain ⟨hexit, houtput, hfiles⟩ := h i.verbose i.isQuiet around.log
      obtain ⟨hexit', houtput', hfiles'⟩ := h count isQuiet log
      rw [hfirst, hsecond, hexit, hexit', houtput, houtput', hfiles, hfiles']
      exact ⟨rfl, rfl, fun _ => rfl, fun h => absurd h (by decide)⟩
    · obtain ⟨hexit, houtput, hfiles⟩ := h i.verbose i.isQuiet around.log
      obtain ⟨hexit', houtput', hfiles'⟩ := h count isQuiet log
      rw [hfirst, hsecond, hexit, hexit', houtput, houtput', hfiles, hfiles']
      exact ⟨rfl, rfl, fun h => absurd rfl h,
        fun _ => ⟨settings, hload, outputsAgree_render hgood _ _ _⟩⟩
  · have hfirst : first = _ := run_of_unreadable hload
    have hsecond : second = _ := run_of_unreadable hload
    have hne : (1 : UInt32) ≠ 0 := by decide
    rw [hfirst, hsecond]
    exact ⟨rfl, rfl, fun _ => rfl, fun hzero => absurd hzero hne⟩

end Invocation

/-- Arguments for an assessment, with those before the command that choose the verbosity. -/
def assessArgs (voice : List String) : List String :=
  voice ++ ["assess", "-a", "1=2", "-a", "2=2", "-a", "3=2", "-a", "4=0", "-a", "5=2"]

end Temperament
