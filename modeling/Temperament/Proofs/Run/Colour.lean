import Temperament.Proofs.Run.Answering
import Temperament.Proofs.View

/-!
# Runs in colour

Whether its output is coloured has no say in what a run does.  The output in colour is the plain one
with sequences put in, and where colour is declined the two are the same (`colour_decorates`).
-/

namespace Temperament

open Journal

/-- The same surroundings, with a coloured output or with a plain one. -/
def Surroundings.withColour (around : Surroundings) (isColoured : Bool) : Surroundings :=
  { around with isColoured }

/-! ## Outcomes that differ in colour -/

namespace Outcome

/-- An outcome that differs from a plain one at most by sequences in its output. -/
structure Decorates (plain coloured : Outcome) : Prop where
  exit_eq : coloured.exit = plain.exit
  errors_eq : coloured.errors = plain.errors
  files_eq : coloured.files = plain.files
  output : Temperament.Decorates plain.output.toList coloured.output.toList

theorem Decorates.refl (o : Outcome) : o.Decorates o :=
  ⟨rfl, rfl, rfl, .refl _⟩

theorem Decorates.strip_output {plain coloured : Outcome} (h : plain.Decorates coloured)
    (hplain : IsClear plain.output) : strip coloured.output = plain.output :=
  strip_of_decorates h.output hplain

end Outcome

namespace Invocation

theorem decorates_outcomeOf (filter : Filter) (inColour : Bool)
    (r : EStateM.Result Fault RunState Unit) :
    (outcomeOf filter false r).Decorates (outcomeOf filter inColour r) := by
  cases inColour with
  | false => exact .refl _
  | true =>
    cases r with
    | ok _ st => exact ⟨rfl, rfl, rfl, decorates_render st.shown⟩
    | error fault st => exact ⟨rfl, rfl, rfl, decorates_render st.shown⟩

/-- No command looks at the colour. -/
theorem outcome_withColour (i : Invocation) (around : Surroundings) (isColoured : Bool)
    (settings : Settings) (files : Files) :
    i.outcome (around.withColour isColoured) settings files =
      outcomeOf (Filter.choose around.log (i.verbosity settings.verbosity))
        (isColoured && i.allowsColour settings) (i.perform around settings { files }) :=
  i.outcome_eq (around.withColour isColoured) settings files

/-- The command line or the settings that are loaded decline colour. -/
def DeclinesColour (i : Invocation) (home : String) (files : Files) : Prop :=
  i.noColor = true ∨ ∃ settings,
    Settings.loadFrom home i.config files = .ok settings files ∧ settings.display.colorOutput = false

theorem allowsColour_eq_false {i : Invocation} {home : String} {files : Files} {settings : Settings}
    (hload : Settings.loadFrom home i.config files = .ok settings files)
    (h : i.DeclinesColour home files) : i.allowsColour settings = false := by
  rcases h with h | ⟨settings', hload', h⟩
  · rw [allowsColour, h, Bool.not_true, Bool.and_false]
  · cases hload.symm.trans hload'
    rw [allowsColour, h, Bool.false_and]

theorem decorates_run (i : Invocation) (around : Surroundings) (files : Files) :
    (i.run (around.withColour false) files).Decorates (i.run (around.withColour true) files) ∧
      (i.DeclinesColour around.home files →
        i.run (around.withColour true) files = i.run (around.withColour false) files) := by
  rcases Settings.loadFrom_cases around.home i.config files with ⟨settings, hload, -⟩ |
    ⟨fault, hload⟩
  · have hrun (isColoured : Bool) : i.run (around.withColour isColoured) files =
        outcomeOf (Filter.choose around.log (i.verbosity settings.verbosity))
          (isColoured && i.allowsColour settings) (i.perform around settings { files }) := by
      have hload' : Settings.loadFrom (around.withColour isColoured).home i.config files =
          .ok settings files := hload
      rw [run_of_load hload', outcome_withColour]
    rw [hrun, hrun, Bool.false_and]
    refine ⟨decorates_outcomeOf _ _ _, fun h => ?_⟩
    rw [allowsColour_eq_false hload h, Bool.and_false]
  · have hrun (isColoured : Bool) : i.run (around.withColour isColoured) files =
        ⟨1, "", s!"Error: Failed to load configuration\n\nCaused by:\n{causeText fault}\n", files⟩ :=
      run_of_unreadable hload
    rw [hrun, hrun]
    exact ⟨.refl _, fun _ => rfl⟩

end Invocation

theorem decorates_runProgram (args : List String) (around : Surroundings) (files : Files) :
    (runProgram args (around.withColour false) files).Decorates
      (runProgram args (around.withColour true) files) := by
  unfold runProgram
  cases Invocation.parse args with
  | ok i => exact (i.decorates_run around files).1
  | error r => exact .refl _

theorem runProgram_of_declinesColour {args : List String} {i : Invocation} {around : Surroundings}
    {files : Files} (hparse : Invocation.parse args = .ok i)
    (h : i.DeclinesColour around.home files) :
    runProgram args (around.withColour true) files =
      runProgram args (around.withColour false) files := by
  rw [runProgram_of_parse hparse, runProgram_of_parse hparse]
  exact (i.decorates_run around files).2 h

/-- A report with words of two lines. -/
def twoLineReport : Progress where
  weekStart := Surroundings.quiet.today
  completedLearning := 4
  targetLearning := 5
  completedSports := 1
  targetSports := 0
  feedback := some "忙\n累"

end Temperament
