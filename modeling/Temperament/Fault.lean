/-!
# What can go wrong

The tally of answers and the adjustment of a plan never fail.  Faults arise where something comes
from outside: answers, settings, the session store, standard input.
-/

namespace Temperament

inductive Fault
  /-- An answer whose index is not the position of an option. -/
  | invalidAnswer (question : UInt32) (index : UInt64)
  | unknownQuestion (id : UInt32)
  | incomplete (answered total : Nat)
  | unknownCategory (label : String)
  /-- An answer on the command line that is not written `ID=INDEX`. -/
  | invalidSpec (spec : String)
  | unreadableSettings
  | malformedSettings
  /-- The folder of a settings file could not be made. -/
  | settingsFolder
  | unwritableSettings
  | blankStateDir
  | unknownVerbosity (level : String)
  | corruptStore (path : String)
  | malformedJson
  | inputOutput
  /-- A line of standard input that is not text. -/
  | unreadableLine
  deriving DecidableEq

namespace Fault

def message : Fault → String
  | invalidAnswer question index =>
    s!"Invalid answer for question {question}: option index {index} is not in 0..=3"
  | unknownQuestion id => s!"Unknown question id: {id}"
  | incomplete answered total =>
    s!"Assessment incomplete: {answered} of {total} questions answered"
  | unknownCategory label => s!"Unknown personality category: {label}"
  | invalidSpec spec => s!"Invalid answer spec '{spec}': expected QUESTION_ID=OPTION_INDEX"
  | unreadableSettings => "Configuration error: Failed to read config"
  | malformedSettings => "Configuration error: Failed to parse config"
  | settingsFolder => "Configuration error: Failed to create config dir"
  | unwritableSettings => "Configuration error: Failed to write config"
  | blankStateDir => "Configuration error: state_dir must not be empty"
  | unknownVerbosity level => s!"Configuration error: Invalid verbosity level: {level}"
  | corruptStore path => s!"Session storage error: corrupt scratch file {path}"
  | malformedJson => "Serialization error"
  | inputOutput => "I/O error"
  | unreadableLine => "Readline error: stream did not contain valid UTF-8"

end Fault

end Temperament
