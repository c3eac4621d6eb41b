/-!
# The tree of a settings document

A document is a table of named values.  A table remembers how it came about, since that decides
what later statements may do with it: `assign?`, `openTable?` and `pushTable?` are the three kinds
of statement as partial functions on the entries of the root table.
-/

namespace Temperament

namespace Toml

/-- How a table came about. -/
inductive Origin
  /-- By its own header. -/
  | header
  /-- By the header of a table inside it. -/
  | implied
  /-- By a dotted key. -/
  | dotted
  deriving DecidableEq, Inhabited

end Toml

inductive Toml
  | text (s : String)
  | integer (n : Int)
  | boolean (b : Bool)
  /-- A number with a fraction or an exponent, as written. -/
  | float (literal : List Char)
  /-- A date or a time, as written. -/
  | moment (literal : List Char)
  | array (items : List Toml)
  | inline (entries : List (String × Toml))
  | table (origin : Toml.Origin) (entries : List (String × Toml))
  /-- A list of tables, the last one first. -/
  | tables (elements : List (List (String × Toml)))
  deriving Inhabited

namespace Toml

abbrev Entries := List (String × Toml)

def Entries.put (entries : Entries) (key : String) (value : Toml) : Entries :=
  entries.map fun entry => if entry.1 = key then (key, value) else entry

/-- The entries of a value that is a table. -/
def entries? : Toml → Option Entries
  | inline entries => some entries
  | table _ entries => some entries
  | _ => none

/-! ## Changes inside a table -/

/-- Changes the entries of the table at the end of a path.  Missing tables on the way are made
with the origin `made`; a dotted key (`made = dotted`) does not lead into a table with a header. -/
def update? (made : Origin) (change : Origin → Entries → Option Entries) :
    List String → Origin → Entries → Option Entries
  | [], origin, entries => change origin entries
  | key :: path, _, entries =>
    match entries.lookup key with
    | none =>
      (update? made change path made []).map fun inner => entries ++ [(key, table made inner)]
    | some (table origin inner) =>
      if made = .dotted ∧ origin = .header then none
      else (update? made change path origin inner).map fun inner =>
        entries.put key (table origin inner)
    | some (tables (last :: others)) =>
      (update? made change path .header last).map fun last =>
        entries.put key (tables (last :: others))
    | some _ => none

/-- Adds an entry.  The table that a dotted key leads to must itself come from dotted keys. -/
def insertNew? (isDotted : Bool) (key : String) (value : Toml) (origin : Origin)
    (entries : Entries) : Option Entries :=
  if isDotted ∧ origin ≠ .dotted then none
  else if (entries.lookup key).isSome then none
  else some (entries ++ [(key, value)])

/-! ## Statements -/

/-- Gives a key below the current table a value. -/
def assign? (path : List String) (key : String) (value : Toml) (entries : Entries) :
    Option Entries :=
  update? .dotted (insertNew? (!path.isEmpty) key value) path .header entries

/-- Opens a table by its header; a table that was only implied gets its header so. -/
def openTable? (path : List String) (key : String) (entries : Entries) : Option Entries :=
  update? .implied (fun _ entries =>
    match entries.lookup key with
    | none => some (entries ++ [(key, table .header [])])
    | some (table .implied inner) => some (entries.put key (table .header inner))
    | some _ => none) path .header entries

/-- Adds an element to a list of tables. -/
def pushTable? (path : List String) (key : String) (entries : Entries) : Option Entries :=
  update? .implied (fun _ entries =>
    match entries.lookup key with
    | none => some (entries ++ [(key, tables [[]])])
    | some (tables elements) => some (entries.put key (tables ([] :: elements)))
    | some _ => none) path .header entries

/-- Gives a key below the table with a given header a value. -/
def assignBelow? (header : List String) (path : List String) (key : String) (value : Toml)
    (entries : Entries) : Option Entries :=
  update? .implied (fun _ entries => assign? path key value entries) header .header entries

end Toml

end Temperament
