/-!
# The journal

What a run notes beside its results, as events with a level, a target and named values.
-/

namespace Temperament.Journal

inductive Level
  | error
  | warn
  | info
  | debug
  | trace
  deriving DecidableEq, Inhabited

namespace Level

def all : List Level :=
  [error, warn, info, debug, trace]

/-- The rank of a level; a more detailed one ranks higher. -/
def rank : Level → Nat
  | error => 1
  | warn => 2
  | info => 3
  | debug => 4
  | trace => 5

/-- The name of a level, filled up to five characters. -/
def title : Level → String
  | error => "ERROR"
  | warn => " WARN"
  | info => " INFO"
  | debug => "DEBUG"
  | trace => "TRACE"

def name : Level → String
  | error => "error"
  | warn => "warn"
  | info => "info"
  | debug => "debug"
  | trace => "trace"

end Level

structure Event where
  level : Level
  target : String
  message : String
  fields : List (String × String) := []
  deriving DecidableEq

namespace Event

/-- The names of the values of an event, the message among them. -/
def names (e : Event) : List String :=
  "message" :: e.fields.map Prod.fst

def line (e : Event) : String :=
  e.level.title ++ " " ++ e.target ++ ": " ++ e.message ++
    String.join (e.fields.map fun field => " " ++ field.1 ++ "=" ++ field.2) ++ "\n"

end Event

end Temperament.Journal
