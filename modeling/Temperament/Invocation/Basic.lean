import Temperament.Date
import Temperament.Verbosity

/-!
# Invocations

What a command line asks for: options that every command takes, and at most one command with its
own options.
-/

namespace Temperament

/-- The options of a weekly report; targets left out come from the settings. -/
structure ReportOptions where
  completedLearning : UInt32
  targetLearning : Option UInt32 := none
  completedSports : UInt32
  targetSports : Option UInt32 := none
  feedback : Option String := none
  weekStart : Option Date := none
  deriving DecidableEq

inductive Command
  | questions
  /-- Answers in the form `ID=INDEX`; without any, the questions are asked. -/
  | assess (answers : List String)
  | plan
  | progress (report : ReportOptions)
  | config (init : Bool)
  | clean
  deriving DecidableEq

structure Invocation where
  config : Option String := none
  stateDir : Option String := none
  /-- The number of `-v`. -/
  verbose : UInt8 := 0
  isQuiet : Bool := false
  noColor : Bool := false
  command : Option Command := none
  deriving DecidableEq

namespace Invocation

def verbosity (i : Invocation) (configured : Verbosity) : Verbosity :=
  configured.effective i.verbose.toNat i.isQuiet

/-- Why a command line is not turned into an invocation. -/
inductive Rejection
  | unknownArgument
  | invalidSubcommand
  /-- An option without its value, or with an empty one that must not be. -/
  | invalidValue
  /-- A number or a date that does not read as one. -/
  | valueValidation
  /-- An option that counts once, given twice. -/
  | argumentConflict
  /-- A flag with a value. -/
  | tooManyValues
  | missingRequiredArgument
  | displayHelp
  | displayVersion
  deriving DecidableEq

namespace Rejection

def name : Rejection → String
  | unknownArgument => "UnknownArgument"
  | invalidSubcommand => "InvalidSubcommand"
  | invalidValue => "InvalidValue"
  | valueValidation => "ValueValidation"
  | argumentConflict => "ArgumentConflict"
  | tooManyValues => "TooManyValues"
  | missingRequiredArgument => "MissingRequiredArgument"
  | displayHelp => "DisplayHelp"
  | displayVersion => "DisplayVersion"

end Rejection

end Invocation

end Temperament
