import Temperament.Journal.Basic
import Temperament.Text.Alphanumeric
import Temperament.Text.Blank
import Temperament.Text.Decimal
import Temperament.Verbosity

/-!
# Filters of events

A filter is a list of directives between commas.  Of those that match an event the most specific
one decides which levels are let through; if none matches, the event is dropped.
-/

namespace Temperament.Journal

open Text

/-- The rank that a level's name or number stands for; `off` is below all levels. -/
def rankOfText? (s : String) : Option Nat :=
  if s.toLower = "off" then some 0
  else
    match Level.all.find? (·.name == s.toLower) with
    | some level => some level.rank
    | none => readUnsigned? 6 s.toList

/-! ## Directives -/

/-- The highest rank let through for events whose target begins with a text and, where a field is
given, that have a value of that name. -/
structure Directive where
  target : String := ""
  field : Option String := none
  rank : Nat
  deriving DecidableEq

namespace Directive

def appliesTo (d : Directive) (e : Event) : Bool :=
  d.target.toList.isPrefixOf e.target.toList && d.field.all e.names.contains

/-- Whether one directive is more specific than another that matches the same event: a longer
target comes first, then a field, and of two fields the greater one. -/
def exceeds (d other : Directive) : Bool :=
  match compare d.target.length other.target.length, d.field, other.field with
  | .gt, _, _ => true
  | .lt, _, _ => false
  | .eq, some field, some otherField => otherField < field
  | .eq, field, otherField => field.isSome && otherField.isNone

end Directive

/-! ## The text of a directive -/

/-- A directive as it is written. -/
structure Item where
  target : String := ""
  /-- Whether it asks for spans of time, by their name or by a value. -/
  isForSpans : Bool := false
  field : Option String := none
  rank : Option Nat := none
  deriving DecidableEq

namespace Item

/-- The rank after a `=`; without a text all levels are meant. -/
def rankAfterSign? (cs : List Char) : Option Nat :=
  if cs.isEmpty then some Level.trace.rank else rankOfText? (String.ofList cs)

/-- What follows a closing bracket: nothing, or a `=` and a level. -/
def afterBracket? (item : Item) (cs : List Char) : Option Item :=
  match cs with
  | '=' :: rank => (rankAfterSign? rank).map fun rank => { item with rank := some rank }
  | cs => if cs.all isBlank then some item else none

def opensField (c : Char) : Bool := c == '\x7b'

def closesField (c : Char) : Bool := c == '\x7d'

/-- A bracket after a target: a name, or a field in braces, or both. -/
def ofBracket? (target : String) (cs : List Char) : Option Item :=
  let name := cs.takeWhile fun c => c != ']' && !opensField c
  match cs.drop name.length with
  | ']' :: rest => afterBracket? { target, isForSpans := true } rest
  | _ :: rest =>
    let field := rest.takeWhile (!closesField ·)
    let isForSpans := !name.isEmpty || field.contains '='
    match rest.drop field.length with
    | _ :: ']' :: rest =>
      if field.isEmpty then none
      else afterBracket? { target, isForSpans, field := some (String.ofList field) } rest
    | _ => none
  | [] => none

def startsTarget (c : Char) : Bool :=
  isAlphanumeric c || c == '_' || c == ':' || c == '-'

/-- A level, or a target with or without a bracket and a level.  The bracket may stand alone. -/
def ofText? (cs : List Char) : Option Item :=
  let body := trimStart cs
  let target := body.takeWhile fun c => c != '=' && c != '['
  if target.head?.all startsTarget then
    match body.drop target.length with
    | '[' :: rest => ofBracket? (String.ofList target) rest
    | _ :: rank =>
      if target.isEmpty then none
      else
        (rankAfterSign? rank).map fun rank => { target := String.ofList target, rank := some rank }
    | [] =>
      if target.isEmpty then none
      else
        match rankOfText? (String.ofList cs) with
        | some rank => some { rank := some rank }
        | none => some { target := String.ofList cs }
  else none

/-- The directives of an item for events; no event lies in a span. -/
def directives (item : Item) : List Directive :=
  if item.isForSpans then []
  else [{ target := item.target, field := item.field, rank := item.rank.getD Level.trace.rank }]

end Item

/-- The directives of a text between commas.  After a blank no level can be given, and nothing
matches. -/
def Directive.listOfText? (cs : List Char) : Option (List Directive) := do
  let item ← Item.ofText? cs
  if cs.head?.any isBlank then
    if item.rank.isSome then none else return []
  else return item.directives

/-! ## Filters -/

abbrev Filter := List Directive

namespace Filter

/-- Reads directives between commas.  Without any, errors alone are let through. -/
def ofText? (s : String) : Option Filter :=
  match (s.splitOn ",").filter (!·.isEmpty) with
  | [] => some [{ rank := Level.error.rank }]
  | items => (items.mapM fun item => Directive.listOfText? item.toList).map List.flatten

/-- Of two directives for an event the more specific one, or else the second. -/
def closer (best : Option Directive) (d : Directive) : Option Directive :=
  match best with
  | some b => if b.exceeds d then best else some d
  | none => some d

def rankFor (filter : Filter) (e : Event) : Nat :=
  match (filter.filter (·.appliesTo e)).foldl closer none with
  | some d => d.rank
  | none => 0

def allows (filter : Filter) (e : Event) : Bool :=
  e.level.rank ≤ filter.rankFor e

/-- The filter that was asked for, or else the one of a verbosity. -/
def choose (asked : Option String) (v : Verbosity) : Filter :=
  match asked.bind ofText? with
  | some filter => filter
  | none => (ofText? v.directive).getD []

end Filter

/-- The lines of the events that a filter lets through. -/
def text (filter : Filter) (events : List Event) : String :=
  String.join ((events.filter filter.allows).map Event.line)

end Temperament.Journal
