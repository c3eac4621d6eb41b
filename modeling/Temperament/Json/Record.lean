import Temperament.Json.Value

/-!
# Reading JSON values as data

The forms that data takes in JSON: text, counts below a limit, and records.  A record is an object
with named members in any order, among others that are not looked at, or an array of its fields in
their declared order.
-/

namespace Temperament.Json

open Text

/-! ## Text and numbers -/

def ofString (s : String) : Json :=
  string (encode s.toList)

/-- The text that a literal denotes. -/
def pieceText? (pieces : List Piece) : Option String :=
  (decode? pieces).map String.ofList

def string? : Json → Option String
  | string pieces => pieceText? pieces
  | _ => none

def ofNat (n : Nat) : Json :=
  number (digits n)

/-- A number below `limit` written as a plain integer. -/
def nat? (limit : Nat) : Json → Option Nat
  | number literal => readNumeral? limit literal
  | _ => none

def uint32? (j : Json) : Option UInt32 :=
  (j.nat? UInt32.size).map UInt32.ofNat

def uint64? (j : Json) : Option UInt64 :=
  (j.nat? UInt64.size).map UInt64.ofNat

def ofStrings (l : List String) : Json :=
  array (l.map ofString)

def strings? : Json → Option (List String)
  | array items => items.mapM string?
  | _ => none

/-! ## Records -/

/-- An object whose keys are plain text. -/
def ofFields (fields : List (String × Json)) : Json :=
  object (fields.map fun (name, value) => (encode name.toList, value))

def key? (member : List Piece × Json) : Option (String × Json) :=
  (pieceText? member.1).map fun name => (name, member.2)

/-- The value of a field: absent if it is not among the members, refused if it occurs twice. -/
def field? (members : List (String × Json)) (name : String) : Option (Option Json) :=
  match members.filter (·.1 == name) with
  | [] => some none
  | [(_, value)] => some (some value)
  | _ => none

/-- The fields of a record, in the order of their names.  The last ones of an array may be
absent; it has no more items than the record has fields. -/
def fields? (names : List String) : Json → Option (List (Option Json))
  | object members => do
    let members ← members.mapM key?
    names.mapM (field? members)
  | array items =>
    if items.length ≤ names.length then
      some (items.map some ++ List.replicate (names.length - items.length) none)
    else none
  | _ => none

end Temperament.Json
