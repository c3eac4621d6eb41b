import Temperament.Invocation.Basic
import Temperament.Text.Decimal

/-!
# Switches

The options of the command line: their names, the levels they may stand at, and what each does with
its value.  A level collects what it is given in a `Given`, which an option changes by `take`.
-/

namespace Temperament.Invocation

open Text

/-! ## Commands and levels -/

inductive CommandName
  | questions
  | assess
  | plan
  | progress
  | config
  | clean
  deriving DecidableEq, Inhabited

namespace CommandName

def all : List CommandName :=
  [questions, assess, plan, progress, config, clean]

def text : CommandName → String
  | questions => "questions"
  | assess => "assess"
  | plan => "plan"
  | progress => "progress"
  | config => "config"
  | clean => "clean"

def ofText? (s : String) : Option CommandName :=
  all.find? (·.text == s)

end CommandName

/-- A stretch of the command line: the options before the command, or those after its name. -/
inductive Level
  | top
  | below (command : CommandName)
  deriving DecidableEq

/-! ## The table of options -/

inductive Switch
  | config
  | stateDir
  | verbose
  | quiet
  | noColor
  | help
  | version
  | answer
  | completedLearning
  | targetLearning
  | completedSports
  | targetSports
  | feedback
  | weekStart
  | init
  deriving DecidableEq, Inhabited

namespace Switch

/-- The name after two hyphens. -/
def long : Switch → String
  | config => "config"
  | stateDir => "state-dir"
  | verbose => "verbose"
  | quiet => "quiet"
  | noColor => "no-color"
  | help => "help"
  | version => "version"
  | answer => "answer"
  | completedLearning => "completed-learning"
  | targetLearning => "target-learning"
  | completedSports => "completed-sports"
  | targetSports => "target-sports"
  | feedback => "feedback"
  | weekStart => "week-start"
  | init => "init"

/-- The letter after one hyphen. -/
def short? : Switch → Option Char
  | config => some 'c'
  | verbose => some 'v'
  | quiet => some 'q'
  | help => some 'h'
  | version => some 'V'
  | answer => some 'a'
  | _ => none

def takesValue : Switch → Bool
  | verbose | quiet | noColor | help | version | init => false
  | _ => true

end Switch

namespace Level

def own : Level → List Switch
  | top => [.version]
  | below .assess => [.answer]
  | below .progress => [.completedLearning, .targetLearning, .completedSports, .targetSports,
      .feedback, .weekStart]
  | below .config => [.init]
  | below _ => []

/-- The options that may stand at a level. -/
def switches (level : Level) : List Switch :=
  [.config, .stateDir, .verbose, .quiet, .noColor, .help] ++ level.own

def long? (level : Level) (name : String) : Option Switch :=
  level.switches.find? (·.long == name)

def short? (level : Level) (letter : Char) : Option Switch :=
  level.switches.find? (·.short? == some letter)

end Level

/-! ## What a level is given -/

structure Given where
  config : Option String := none
  stateDir : Option String := none
  verbose : UInt8 := 0
  isQuiet : Bool := false
  noColor : Bool := false
  answers : List String := []
  completedLearning : Option UInt32 := none
  targetLearning : Option UInt32 := none
  completedSports : Option UInt32 := none
  targetSports : Option UInt32 := none
  feedback : Option String := none
  weekStart : Option Date := none
  init : Bool := false
  deriving DecidableEq

/-- A count has one sign at most; zero may be negative. -/
def readCount? : List Char → Option UInt32
  | '-' :: cs => if readNumeral? 1 cs = some 0 then some 0 else none
  | cs => (readUnsigned? UInt32.size cs).map UInt32.ofNat

/-- The value of an option that was not given before. -/
def once {α β : Type} (before : Option α) (value : Except Rejection β) :
    Except Rejection (Option β) :=
  if before.isSome then .error .argumentConflict else value.map some

/-- A flag that was not given before. -/
def flagOnce (before : Bool) : Except Rejection Bool :=
  if before then .error .argumentConflict else .ok true

def pathValue (s : String) : Except Rejection String :=
  if s.isEmpty then .error .invalidValue else .ok s

def countValue (s : String) : Except Rejection UInt32 :=
  match readCount? s.toList with
  | some n => .ok n
  | none => .error .valueValidation

def dateValue (s : String) : Except Rejection Date :=
  match Date.ofText? s with
  | some d => .ok d
  | none => .error .valueValidation

/-- Counts an occurrence, as far as a byte counts. -/
def countUp (n : UInt8) : UInt8 :=
  if n = 255 then 255 else n + 1

/-- Carries out an option; a flag has the empty text for its value. -/
def Given.take (g : Given) (switch : Switch) (value : String) : Except Rejection Given :=
  match switch with
  | .config => return { g with config := ← once g.config (pathValue value) }
  | .stateDir => return { g with stateDir := ← once g.stateDir (pathValue value) }
  | .verbose => return { g with verbose := countUp g.verbose }
  | .quiet => return { g with isQuiet := ← flagOnce g.isQuiet }
  | .noColor => return { g with noColor := ← flagOnce g.noColor }
  | .help => throw .displayHelp
  | .version => throw .displayVersion
  | .answer => return { g with answers := g.answers ++ [value] }
  | .completedLearning =>
    return { g with completedLearning := ← once g.completedLearning (countValue value) }
  | .targetLearning =>
    return { g with targetLearning := ← once g.targetLearning (countValue value) }
  | .completedSports =>
    return { g with completedSports := ← once g.completedSports (countValue value) }
  | .targetSports => return { g with targetSports := ← once g.targetSports (countValue value) }
  | .feedback => return { g with feedback := ← once g.feedback (.ok value) }
  | .weekStart => return { g with weekStart := ← once g.weekStart (dateValue value) }
  | .init => return { g with init := ← flagOnce g.init }

end Temperament.Invocation
