import Temperament.Toml.Value

/-!
# Statements of a settings document

A document is a sequence of lines: assignments, headers of tables, headers of elements of a list of
tables, and lines that hold a comment or nothing.  `Entries.ofText?` reads a document and carries
its statements out one after the other.
-/

namespace Temperament.Toml

inductive Statement
  /-- Gives a key below the current table a value. -/
  | assign (path : List String) (key : String) (value : Toml)
  /-- The header of a table. -/
  | openTable (path : List String) (key : String)
  /-- The header of a new element of a list of tables. -/
  | pushTable (path : List String) (key : String)

/-! ## Reading -/

def readAssignment? (cs : List Char) : Option (Statement × List Char) := do
  let ((path, key), rest) ← readKey? cs
  let rest ← readMark? '=' rest
  let (value, rest) ← readValue? (skipSpaces rest)
  some (.assign path key value, rest)

def readStatement? : List Char → Option (Statement × List Char)
  | '[' :: '[' :: cs => do
    let ((path, key), rest) ← readKey? cs
    let rest ← readMark? ']' rest
    let rest ← readMark? ']' rest
    some (.pushTable path key, rest)
  | '[' :: cs => do
    let ((path, key), rest) ← readKey? cs
    let rest ← readMark? ']' rest
    some (.openTable path key, rest)
  | cs => readAssignment? cs

/-- The rest after the end of a line or of the text, with a comment before it skipped. -/
def readLineEnd? (cs : List Char) : Option (List Char) :=
  let rest := skipComment (skipSpaces cs)
  if rest.isEmpty then some [] else readNewline? rest

/-- The statements of a text, at most one line for each unit of `fuel`. -/
def readLines? : (fuel : Nat) → List Char → Option (List Statement)
  | 0, _ => none
  | fuel + 1, cs =>
    if cs.isEmpty then some []
    else
      match readLineEnd? cs with
      | some rest => readLines? fuel rest
      | none => do
        let (statement, rest) ← readStatement? (skipSpaces cs)
        let rest ← readLineEnd? rest
        let statements ← readLines? fuel rest
        some (statement :: statements)

def readStatements? (cs : List Char) : Option (List Statement) :=
  readLines? (cs.length + 1) cs

/-! ## Carrying out -/

/-- A document so far, and the header of its current table. -/
structure Draft where
  header : List String
  entries : Entries

def Draft.add? (draft : Draft) : Statement → Option Draft
  | .assign path key value =>
    (assignBelow? draft.header path key value draft.entries).map fun entries =>
      ⟨draft.header, entries⟩
  | .openTable path key =>
    (openTable? path key draft.entries).map fun entries => ⟨path ++ [key], entries⟩
  | .pushTable path key =>
    (pushTable? path key draft.entries).map fun entries => ⟨path ++ [key], entries⟩

def Entries.ofStatements? (statements : List Statement) : Option Entries :=
  (statements.foldlM Draft.add? ⟨[], []⟩).map Draft.entries

/-- The entries of a document; a byte order mark before it does not count. -/
def Entries.read? (cs : List Char) : Option Entries :=
  (readStatements? (if cs.head? = some '\uFEFF' then cs.tail else cs)).bind ofStatements?

def Entries.ofText? (s : String) : Option Entries :=
  read? s.toList

end Temperament.Toml
