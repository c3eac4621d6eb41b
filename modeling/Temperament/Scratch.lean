import Temperament.Fault
import Temperament.Files.Basic
import Temperament.Json.Record
import Temperament.SortedMap

/-!
# The scratch store

Texts under text keys, kept in one file as a JSON object.  A missing file holds no entries.  Every
operation reads the file anew, and a write replaces it as a whole: two spaces of indentation, keys
in their order, no newline at the end.
-/

namespace Temperament

open Std

/-- Work on a file tree that may fail; what was done before a failure stays done. -/
abbrev Filing := EStateM Fault Files

structure Scratch where
  folder : String
  deriving DecidableEq

namespace Scratch

def path (s : Scratch) : String := Path.join s.folder "session.json"

/-! ## The text of the file -/

abbrev Entries := SortedMap String String

namespace Entries

def quoted (s : String) : List Char :=
  (Json.Token.string (Json.encode s.toList)).text

def writeEntry (entry : String × String) : List Char :=
  ' ' :: ' ' :: (quoted entry.1 ++ ':' :: ' ' :: quoted entry.2)

/-- The entries after the first one, up to the end of the object. -/
def writeMore : List (String × String) → List Char
  | [] => ['\n', '\x7d']
  | entry :: entries => ',' :: '\n' :: (writeEntry entry ++ writeMore entries)

def write (entries : Entries) : List Char :=
  match entries.toList with
  | [] => ['\x7b', '\x7d']
  | entry :: rest => '\x7b' :: '\n' :: (writeEntry entry ++ writeMore rest)

def text (entries : Entries) : String :=
  String.ofList entries.write

def ofMember? (member : List Json.Piece × Json) : Option (String × String) := do
  return (← Json.pieceText? member.1, ← member.2.string?)

/-- The entries of an object that holds only texts; of several with one key the last counts. -/
def ofJson? : Json → Option Entries
  | .object members => (members.mapM ofMember?).map SortedMap.ofList
  | _ => none

def ofText? (s : String) : Option Entries :=
  (Json.ofText? s).bind ofJson?

end Entries

/-! ## Operations -/

/-- All entries. -/
def load (s : Scratch) : Filing Entries := do
  let fs ← get
  if !fs.contains s.path then return ∅
  let some text := fs.readText? s.path | throw .inputOutput
  let some entries := Entries.ofText? text | throw (.corruptStore s.path)
  return entries

/-- Replaces the file; the result is the number of entries written. -/
def store (s : Scratch) (entries : Entries) : Filing Nat := do
  let (made, fs) := (← get).makeFolders (Path.ofText s.folder)
  set fs
  if !made then throw .inputOutput
  let some fs := fs.writeText? s.path entries.text | throw .inputOutput
  set fs
  return entries.size

def get? (s : Scratch) (key : String) : Filing (Option String) := do
  return (← s.load).get? key

def insert (s : Scratch) (key value : String) : Filing Nat := do
  s.store ((← s.load).insert key value)

/-- Removes an entry; without one the file is left alone and nothing is written. -/
def erase (s : Scratch) (key : String) : Filing (Option Nat) := do
  let entries ← s.load
  if entries.contains key then return some (← s.store (entries.erase key)) else return none

/-- Deletes the file; the result is whether there was one. -/
def clear (s : Scratch) : Filing Bool := do
  let fs ← get
  if !fs.contains s.path then return false
  let some fs := fs.remove? s.path | throw .inputOutput
  set fs
  return true

end Scratch

end Temperament
