import Temperament.Toml.Literal
import Temperament.Toml.Scalar

/-!
# Values of a settings document

Strings, scalars, arrays and inline tables, and the keys before them.  Arrays may spread over
lines and hold comments, inline tables may not.  Both nest to a limited depth.
-/

namespace Temperament.Toml

/-! ## Blanks and comments -/

/-- Skips a comment, up to the end of its line.  A comment holds no control character but tabs. -/
def skipComment (cs : List Char) : List Char :=
  if cs.head? = some '#' then cs.dropWhile fun c => !isControl c else cs

theorem skipComment_le (cs : List Char) : (skipComment cs).length ≤ cs.length := by
  unfold skipComment
  split
  · exact (List.dropWhile_sublist _).length_le
  · exact Nat.le_refl _

/-- Skips blanks, comments and line ends; a comment must have a line end. -/
def skipLines (cs : List Char) : List Char :=
  match _h : readNewline? (skipComment (skipSpaces cs)) with
  | some rest => skipLines rest
  | none => skipSpaces cs
termination_by cs.length
decreasing_by
  exact Nat.lt_of_lt_of_le (readNewline?_shorter _h)
    (Nat.le_trans (skipComment_le _) (skipSpaces_le cs))

/-! ## Keys -/

def isBareKeyChar (c : Char) : Bool :=
  c.isAlphanum || c == '-' || c == '_'

/-- One part of a key: bare, or a string on one line. -/
def readKeyPart? (cs : List Char) : Option (String × List Char) :=
  match cs with
  | [] => none
  | c :: _ =>
    if c = '"' then (Form.basic.read? cs).map fun (key, rest) => (String.ofList key, rest)
    else if c = '\'' then (Form.literal.read? cs).map fun (key, rest) => (String.ofList key, rest)
    else
      let key := cs.takeWhile isBareKeyChar
      if key.isEmpty then none else some (String.ofList key, cs.dropWhile isBareKeyChar)

/-- The parts of a key, joined by dots, with blanks around each; at most `limit` of them. -/
def readKeyParts? : (limit : Nat) → List Char → Option (List String × List Char)
  | 0, _ => none
  | limit + 1, cs => do
    let (part, rest) ← readKeyPart? (skipSpaces cs)
    match skipSpaces rest with
    | '.' :: rest =>
      let (parts, rest) ← readKeyParts? limit rest
      some (part :: parts, rest)
    | rest => some ([part], rest)

/-- The limit on nested arrays and tables, and on the parts of a key. -/
def depthLimit : Nat := 79

/-- A key, as the path to its last part and that part. -/
def readKey? (cs : List Char) : Option ((List String × String) × List Char) := do
  let (parts, rest) ← readKeyParts? depthLimit cs
  let last ← parts.getLast?
  some ((parts.dropLast, last), rest)

/-! ## Composite values -/

/-- Reads what stands between brackets: parts that `read?` reads, with commas between them. -/
def readSeparated? {α : Type} (read? : List Char → Option (α × List Char)) :
    (fuel : Nat) → List Char → Option (List α × List Char)
  | 0, _ => none
  | fuel + 1, cs => do
    let (part, rest) ← read? cs
    match rest with
    | ',' :: rest' =>
      match readSeparated? read? fuel rest' with
      | some (parts, rest'') => some (part :: parts, rest'')
      | none => some ([part], rest)
    | _ => some ([part], rest)

/-- The items of an array after its opening bracket; a comma may follow the last one. -/
def readItems? (readValue? : List Char → Option (Toml × List Char)) (cs : List Char) :
    Option (Toml × List Char) := do
  let readItem? (cs : List Char) := do
    let (v, rest) ← readValue? (skipLines cs)
    some (v, skipLines rest)
  let (items, rest) := (readSeparated? readItem? cs.length cs).getD ([], skipLines cs)
  match items, rest with
  | _ :: _, ',' :: rest => (readMark? ']' (skipLines rest)).map fun rest => (array items, rest)
  | _, rest => (readMark? ']' rest).map fun rest => (array items, rest)

/-- The members of an inline table after its opening brace. -/
def readMembers? (readValue? : List Char → Option (Toml × List Char)) (cs : List Char) :
    Option (Toml × List Char) := do
  let readMember? (cs : List Char) := do
    let (key, rest) ← readKey? cs
    let rest ← readMark? '=' rest
    let (v, rest) ← readValue? (skipSpaces rest)
    some ((key, v), skipSpaces rest)
  let (members, rest) := (readSeparated? readMember? cs.length cs).getD ([], skipSpaces cs)
  let rest ← readMark? '\x7d' rest
  let entries ← members.foldlM (fun entries (key, v) => assign? key.1 key.2 v entries) []
  some (inline entries, rest)

/-- A string or a scalar. -/
def readFlat? (cs : List Char) : Option (Toml × List Char) :=
  match readString? cs with
  | some (contents, rest) => some (text (String.ofList contents), rest)
  | none => readScalar? cs

/-- Reads a value with at most `depth` arrays and inline tables around any part of it. -/
def readNested? : (depth : Nat) → List Char → Option (Toml × List Char)
  | 0, cs => readFlat? cs
  | depth + 1, cs =>
    match cs with
    | '[' :: rest => readItems? (readNested? depth) rest
    | '\x7b' :: rest => readMembers? (readNested? depth) rest
    | cs => readFlat? cs

def readValue? (cs : List Char) : Option (Toml × List Char) :=
  readNested? depthLimit cs

end Temperament.Toml
