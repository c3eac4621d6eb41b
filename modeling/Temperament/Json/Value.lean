import Temperament.Json.Token

/-!
# JSON values

A value keeps its numbers and strings as written and the members of an object in their order,
repeated keys included.  `tokens` writes a value without white space; `ofTokens?` reads one, with
a stack of the arrays and objects that are still open, so values may be nested to any depth.
-/

namespace Temperament

inductive Json
  | null
  | bool (b : Bool)
  | number (literal : List Char)
  | string (pieces : List Json.Piece)
  | array (items : List Json)
  | object (members : List (List Json.Piece × Json))
  deriving Inhabited

namespace Json

/-! ## Writing -/

mutual

def tokens : Json → List Token
  | null => [.null]
  | bool b => [.bool b]
  | number literal => [.number literal]
  | string pieces => [.string pieces]
  | array [] => [.openArray, .closeArray]
  | array (item :: items) => .openArray :: (item.tokens ++ moreItems items)
  | object [] => [.openObject, .closeObject]
  | object ((key, value) :: members) =>
    .openObject :: .string key :: .colon :: (value.tokens ++ moreMembers members)

/-- The items after the first one, up to the end of the array. -/
def moreItems : List Json → List Token
  | [] => [.closeArray]
  | item :: items => .comma :: (item.tokens ++ moreItems items)

/-- The members after the first one, up to the end of the object. -/
def moreMembers : List (List Piece × Json) → List Token
  | [] => [.closeObject]
  | (key, value) :: members =>
    .comma :: .string key :: .colon :: (value.tokens ++ moreMembers members)

end

/-- The text of a value, without white space between its tokens. -/
def write (v : Json) : List Char :=
  v.tokens.flatMap Token.text

def text (v : Json) : String :=
  String.ofList v.write

/-! ## Reading -/

/-- An array or an object that is still open, with its parts so far, the last one first. -/
inductive Frame
  | array (items : List Json)
  | object (members : List (List Piece × Json)) (key : List Piece)

inductive Position
  /-- A value is due. -/
  | value
  /-- An array was opened: its first item or its end is due. -/
  | firstItem
  /-- An object was opened: its first key or its end is due. -/
  | firstKey
  /-- A key is due, after these members. -/
  | key (members : List (List Piece × Json))
  /-- The colon after a key is due. -/
  | colon (members : List (List Piece × Json)) (key : List Piece)
  /-- A value is complete. -/
  | complete (v : Json)

/-- The beginning of a value. -/
def begin? (frames : List Frame) : Token → Option (Position × List Frame)
  | .null => some (.complete null, frames)
  | .bool b => some (.complete (bool b), frames)
  | .number literal => some (.complete (number literal), frames)
  | .string pieces => some (.complete (string pieces), frames)
  | .openArray => some (.firstItem, frames)
  | .openObject => some (.firstKey, frames)
  | _ => none

def step? : Position → List Frame → Token → Option (Position × List Frame)
  | .value, frames, t => begin? frames t
  | .firstItem, frames, .closeArray => some (.complete (array []), frames)
  | .firstItem, frames, t => begin? (.array [] :: frames) t
  | .firstKey, frames, .closeObject => some (.complete (object []), frames)
  | .firstKey, frames, .string key => some (.colon [] key, frames)
  | .key members, frames, .string key => some (.colon members key, frames)
  | .colon members key, frames, .colon => some (.value, .object members key :: frames)
  | .complete v, .array items :: frames, .comma => some (.value, .array (v :: items) :: frames)
  | .complete v, .array items :: frames, .closeArray =>
    some (.complete (array (v :: items).reverse), frames)
  | .complete v, .object members key :: frames, .comma => some (.key ((key, v) :: members), frames)
  | .complete v, .object members key :: frames, .closeObject =>
    some (.complete (object ((key, v) :: members).reverse), frames)
  | _, _, _ => none

def run? : Position → List Frame → List Token → Option Json
  | .complete v, [], [] => some v
  | _, _, [] => none
  | position, frames, t :: ts =>
    (step? position frames t).bind fun (position, frames) => run? position frames ts

/-- The value that a sequence of tokens denotes. -/
def ofTokens? (ts : List Token) : Option Json :=
  run? .value [] ts

def read? (cs : List Char) : Option Json :=
  (scan? cs).bind ofTokens?

def ofText? (s : String) : Option Json :=
  read? s.toList

end Json

end Temperament
