import Temperament.Invocation.Scan
import Temperament.Journal.Filter
import Temperament.Run.Commands

/-!
# A run of the program

A run is a function of its arguments, its surroundings and a file tree.  It ends with an exit code,
the texts of its two outputs, and the tree as it leaves it: 0 if all went well, 1 after a fault, 2
if the arguments are refused.
-/

namespace Temperament

open Journal

/-- What a run finds around it. -/
structure Surroundings where
  home : String
  today : Date
  /-- The bytes of standard input. -/
  input : List UInt8 := []
  /-- The log filter that is asked for. -/
  log : Option String := none
  /-- Whether the output is coloured. -/
  isColoured : Bool := false

structure Outcome where
  exit : UInt32
  output : String := ""
  errors : String := ""
  files : Files

namespace Invocation

/-- The folder of the session store. -/
def storeFolder (i : Invocation) (home : String) (settings : Settings) : String :=
  i.stateDir.getD (settings.stateDir home)

def settingsPath (i : Invocation) (home : String) : String :=
  i.config.getD (Settings.defaultPath home)

def allowsColour (i : Invocation) (settings : Settings) : Bool :=
  settings.display.colorOutput && !i.noColor

/-- Carries out the command of an invocation. -/
def perform (i : Invocation) (around : Surroundings) (settings : Settings) : Work Unit := do
  let v := i.verbosity settings.verbosity
  let scratch : Scratch := ⟨i.storeFolder around.home settings⟩
  Work.note (Events.usingStorage scratch)
  match i.command with
  | some .questions => Work.showText (View.questions Question.builtin)
  | some (.assess specs) => Work.assess scratch v specs around.input
  | some .plan => Work.plan scratch
  | some (.progress report) => Work.recordProgress scratch (report.progress settings around.today)
  | some (.config init) =>
    if init then Work.initSettings (i.settingsPath around.home)
    Work.showSettings settings (i.settingsPath around.home) scratch v (i.allowsColour settings)
  | some .clean => Work.clean scratch
  | none => Work.showText Work.usage

/-- The outcome of an invocation whose settings are loaded. -/
def outcome (i : Invocation) (around : Surroundings) (settings : Settings) (files : Files) :
    Outcome :=
  let filter := Filter.choose around.log (i.verbosity settings.verbosity)
  let inColour := around.isColoured && i.allowsColour settings
  match i.perform around settings { files } with
  | .ok _ s => ⟨0, s.shown.render inColour, Journal.text filter s.events, s.files⟩
  | .error fault s =>
    let errors := Journal.text filter s.events ++ s!"Error: {fault.message}\n"
    ⟨1, s.shown.render inColour, errors, s.files⟩

/-- The cause of a failure as it is reported, each of its lines indented. -/
def causeText (fault : Fault) : String :=
  "\n".intercalate ((fault.message.splitOn "\n").map ("    " ++ ·))

/-- The outcome of an invocation. -/
def run (i : Invocation) (around : Surroundings) (files : Files) : Outcome :=
  match Settings.loadFrom around.home i.config files with
  | .ok settings files => i.outcome around settings files
  | .error fault files =>
    ⟨1, "", s!"Error: Failed to load configuration\n\nCaused by:\n{causeText fault}\n", files⟩

/-- The outcome of arguments that are not an invocation. -/
def Rejection.outcome (r : Rejection) (files : Files) : Outcome :=
  match r with
  | .displayHelp => { exit := 0, output := Work.usage.render false, files }
  | .displayVersion => { exit := 0, output := "huidong 0.1.0\n", files }
  | r => { exit := 2, errors := s!"error: {r.name}\n", files }

end Invocation

/-- The outcome of a run with the given arguments. -/
def runProgram (args : List String) (around : Surroundings) (files : Files) : Outcome :=
  match Invocation.parse args with
  | .ok i => i.run around files
  | .error r => r.outcome files

end Temperament
