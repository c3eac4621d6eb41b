import Temperament.Invocation.Switch

/-!
# Reading a command line

Arguments are read in order.  An option whose value is the next argument holds it back until the
next option is met or its level ends; only then is the value checked.  The options of a command are
read in full before what the top level still holds back.
-/

namespace Temperament.Invocation

/-- The state of reading one level. -/
structure Scan where
  given : Given := {}
  /-- An option that waits for its value, or whose value is held back. -/
  pending : Option (Switch × Option String) := none
  /-- Whether `--` was met, after which nothing is an option. -/
  isTrailing : Bool := false
  deriving DecidableEq

namespace Scan

/-- Whether the next argument is the value of an option. -/
def isAwaiting (s : Scan) : Bool :=
  match s.pending with
  | some (_, none) => true
  | _ => false

/-- Carries out what is held back. -/
def settle (s : Scan) : Except Rejection Scan :=
  match s.pending with
  | none => .ok s
  | some (_, none) => .error .invalidValue
  | some (switch, some value) =>
    return { s with given := ← s.given.take switch value, pending := none }

/-- Carries out an option with a value that is at hand. -/
def give (s : Scan) (switch : Switch) (value : String) : Except Rejection Scan := do
  let s ← s.settle
  return { s with given := ← s.given.take switch value }

/-- Meets an option whose value is the next argument. -/
def await (s : Scan) (switch : Switch) : Except Rejection Scan := do
  return { ← s.settle with pending := some (switch, none) }

/-! ## Arguments -/

/-- The value after the `=` of a long option. -/
def attached? (body : List Char) : Option String :=
  match body.dropWhile (· != '=') with
  | _ :: value => some (String.ofList value)
  | [] => none

/-- A long option, without its hyphens. -/
def takeLong (level : Level) (s : Scan) (body : List Char) : Except Rejection Scan :=
  match level.long? (String.ofList (body.takeWhile (· != '='))) with
  | none => .error .unknownArgument
  | some switch =>
    match switch.takesValue, attached? body with
    | true, some value => s.give switch value
    | true, none => s.await switch
    | false, some _ => .error .tooManyValues
    | false, none => s.give switch ""

/-- Short options in one argument; the rest behind one that takes a value is its value. -/
def takeShorts (level : Level) (s : Scan) : List Char → Except Rejection Scan
  | [] => .ok s
  | letter :: rest =>
    match level.short? letter with
    | none => .error .unknownArgument
    | some switch =>
      if switch.takesValue then
        match rest with
        | [] => s.await switch
        | '=' :: value => s.give switch (String.ofList value)
        | value => s.give switch (String.ofList value)
      else do takeShorts level (← s.give switch "") rest

/-- An argument that is no option: a value, or one too many. -/
def takeWord (level : Level) (s : Scan) (word : String) : Except Rejection Scan :=
  match s.pending with
  | some (switch, none) => .ok { s with pending := some (switch, some word) }
  | _ => .error (if level = .top then .invalidSubcommand else .unknownArgument)

/-- The words in the place of a command that are read; `help` is one of them. -/
def namesCommand (word : String) : Bool :=
  word = "help" || (CommandName.ofText? word).isSome

/-- An argument after `--`.  At the top level it could only be a command, and none is read there. -/
def refuseTrailing (level : Level) (arg : String) : Rejection :=
  if level = .top ∧ ¬namesCommand arg then .invalidSubcommand else .unknownArgument

/-- An argument that is not the name of a command. -/
def take (level : Level) (s : Scan) (arg : String) : Except Rejection Scan :=
  if s.isTrailing then .error (refuseTrailing level arg)
  else
    match arg.toList with
    | ['-', '-'] => .ok { s with isTrailing := true }
    | '-' :: '-' :: body => s.takeLong level body
    | '-' :: letter :: rest => s.takeShorts level (letter :: rest)
    | _ => s.takeWord level arg

end Scan

/-! ## Levels -/

/-- What the arguments after the name of a command give. -/
def below (name : CommandName) (args : List String) : Except Rejection Given := do
  let s ← args.foldlM (Scan.take (.below name)) {}
  return (← s.settle).given

/-- The report that a level is given. -/
def Given.report (g : Given) : Except Rejection ReportOptions :=
  match g.completedLearning, g.completedSports with
  | some completedLearning, some completedSports => .ok {
      completedLearning, completedSports
      targetLearning := g.targetLearning
      targetSports := g.targetSports
      feedback := g.feedback
      weekStart := g.weekStart }
  | _, _ => .error .missingRequiredArgument

def Given.command (g : Given) : CommandName → Except Rejection Command
  | .questions => .ok .questions
  | .assess => .ok (.assess g.answers)
  | .plan => .ok .plan
  | .progress => g.report.map .progress
  | .config => .ok (.config g.init)
  | .clean => .ok .clean

/-- A help page is there for every command, and for the word `help` itself. -/
def helpOn : List String → Rejection
  | [] => .displayHelp
  | [topic] => if Scan.namesCommand topic then .displayHelp else .invalidSubcommand
  | _ => .invalidSubcommand

/-- What is given at the top level, and the command with what is given to it. -/
def top (s : Scan) : List String → Except Rejection (Given × Option (Given × Command))
  | [] => do return ((← s.settle).given, none)
  | arg :: args =>
    if s.isTrailing || s.isAwaiting then do top (← s.take .top arg) args
    else if arg = "help" then .error (helpOn args)
    else
      match CommandName.ofText? arg with
      | none => do top (← s.take .top arg) args
      | some name => do
        let inner ← below name args
        let command ← inner.command name
        return ((← s.settle).given, some (inner, command))

/-- The option of the later level where it is given there. -/
def merge (outer inner : Given) (command : Option Command) : Invocation where
  config := inner.config <|> outer.config
  stateDir := inner.stateDir <|> outer.stateDir
  verbose := if inner.verbose = 0 then outer.verbose else inner.verbose
  isQuiet := inner.isQuiet || outer.isQuiet
  noColor := inner.noColor || outer.noColor
  command := command

/-- Reads the arguments of a command line. -/
def parse (args : List String) : Except Rejection Invocation := do
  match ← top {} args with
  | (outer, none) => return merge outer {} none
  | (outer, some (inner, command)) => return merge outer inner (some command)

end Temperament.Invocation
