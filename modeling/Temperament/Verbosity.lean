/-!
# Verbosity

How talkative the program is: what it shows beside its results, and which log events it lets
through by default.
-/

namespace Temperament

inductive Verbosity
  | quiet
  | normal
  | verbose
  | veryVerbose
  deriving DecidableEq, Inhabited

namespace Verbosity

def all : List Verbosity :=
  [quiet, normal, verbose, veryVerbose]

def name : Verbosity → String
  | quiet => "quiet"
  | normal => "normal"
  | verbose => "verbose"
  | veryVerbose => "very_verbose"

def ofName? (s : String) : Option Verbosity :=
  all.find? (·.name == s)

/-- The verbosity of a name, `normal` for any other text. -/
def ofName (s : String) : Verbosity :=
  (ofName? s).getD normal

theorem ofName_name (v : Verbosity) : ofName v.name = v := by
  cases v <;> decide

/-- Whether scores and hints are shown. -/
def showsDetails (v : Verbosity) : Bool :=
  v != quiet

/-- The verbosity of a run, from the configured one, the number of `-v` and the presence of `-q`. -/
def effective (configured : Verbosity) (count : Nat) (isQuiet : Bool) : Verbosity :=
  if isQuiet then quiet
  else
    match count with
    | 0 => configured
    | 1 => verbose
    | _ => veryVerbose

/-- The log filter of a run that asks for no other. -/
def directive : Verbosity → String
  | quiet => "huidong=error"
  | normal => "huidong=warn"
  | verbose => "huidong=info"
  | veryVerbose => "huidong=debug"

end Verbosity

end Temperament
