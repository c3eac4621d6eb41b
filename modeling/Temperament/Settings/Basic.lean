import Temperament.Fault
import Temperament.Files.Path
import Temperament.Text.Blank
import Temperament.Verbosity

/-!
# Settings

Where the session store is, how the program shows its results, and the targets a report has if it
names none.  Settings are in three sections, each with defaults of its own.
-/

namespace Temperament

namespace Settings

structure Paths where
  stateDir : String := "~/.huidong"
  deriving DecidableEq

structure Display where
  defaultVerbosity : String := "normal"
  colorOutput : Bool := true
  deriving DecidableEq

structure Targets where
  learning : UInt32 := 5
  sports : UInt32 := 3
  deriving DecidableEq

end Settings

structure Settings where
  paths : Settings.Paths := {}
  display : Settings.Display := {}
  targets : Settings.Targets := {}
  deriving DecidableEq

namespace Settings

/-- Refuses a blank state folder first, then a text that names no verbosity. -/
def validate (s : Settings) : Except Fault Unit :=
  if (Text.trimmed s.paths.stateDir).isEmpty then .error .blankStateDir
  else if (Verbosity.ofName? s.display.defaultVerbosity).isNone then
    .error (.unknownVerbosity s.display.defaultVerbosity)
  else .ok ()

def verbosity (s : Settings) : Verbosity :=
  .ofName s.display.defaultVerbosity

/-- The text after `~/`. -/
def belowHome? (path : String) : Option String :=
  match path.toList with
  | '~' :: '/' :: rest => some (String.ofList rest)
  | _ => none

/-- A path with `~/` at its beginning replaced by the home folder. -/
def expand (home path : String) : String :=
  match belowHome? path with
  | some rest => Path.join home rest
  | none => path

def stateDir (home : String) (s : Settings) : String :=
  expand home s.paths.stateDir

/-- Where settings are looked for if no path is given. -/
def defaultPath (home : String) : String :=
  Path.join (Path.join home ".huidong") "config.toml"

end Settings

end Temperament
