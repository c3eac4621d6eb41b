/-!
# Paths

A path is a text of names between slashes.  It is kept as the stretches between its slashes, from
which it can be written again (`text_ofText`).
-/

namespace Temperament

structure Path where
  /-- The stretches between slashes, empty ones included. -/
  pieces : List String
  deriving DecidableEq, Inhabited

namespace Path

/-! ## Text -/

def splitSlashes : List Char → List (List Char)
  | [] => [[]]
  | c :: cs =>
    if c = '/' then [] :: splitSlashes cs
    else
      match splitSlashes cs with
      | piece :: pieces => (c :: piece) :: pieces
      | [] => [[c]]

def ofText (s : String) : Path where
  pieces := (splitSlashes s.toList).map String.ofList

def text (p : Path) : String :=
  String.ofList (['/'].intercalate (p.pieces.map String.toList))

theorem splitSlashes_ne_nil (cs : List Char) : splitSlashes cs ≠ [] := by
  cases cs with
  | nil => simp [splitSlashes]
  | cons c cs =>
    unfold splitSlashes
    split
    · simp
    · split <;> simp

theorem intercalate_splitSlashes (cs : List Char) : ['/'].intercalate (splitSlashes cs) = cs := by
  induction cs with
  | nil => rfl
  | cons c cs ih =>
    unfold splitSlashes
    split <;> rename_i hc
    · match h : splitSlashes cs with
      | [] => exact absurd h (splitSlashes_ne_nil cs)
      | piece :: pieces =>
        rw [h] at ih
        simp [List.intercalate, List.intersperse, hc, ← ih]
    · match h : splitSlashes cs with
      | [] => exact absurd h (splitSlashes_ne_nil cs)
      | [piece] =>
        rw [h] at ih
        simpa [List.intercalate] using ih
      | piece :: piece' :: pieces =>
        rw [h] at ih
        simpa [List.intercalate] using ih

theorem text_ofText (s : String) : (ofText s).text = s := by
  simp [text, ofText, Function.comp_def, intercalate_splitSlashes]

/-- The number of bytes of the text. -/
def size (p : Path) : Nat := p.text.utf8ByteSize

/-- A text continued by another: an absolute one replaces it, any other follows after a slash. -/
def join (base rest : String) : String :=
  if rest.toList.head? = some '/' || base.isEmpty then rest
  else if base.toList.getLast? = some '/' then base ++ rest
  else base ++ "/" ++ rest

/-! ## Parts -/

/-- Whether the path begins at the root. -/
def isAbsolute (p : Path) : Bool :=
  match p.pieces with
  | first :: _ :: _ => first.isEmpty
  | _ => false

/-- The names between slashes, `.` and `..` among them. -/
def parts (p : Path) : List String :=
  p.pieces.filter (!·.isEmpty)

/-- Whether a slash at the end asks for a folder. -/
def endsInSlash (p : Path) : Bool :=
  p.pieces.tail.getLast? = some ""

/-- The empty path, which leads nowhere. -/
def isEmpty (p : Path) : Bool :=
  !p.isAbsolute && p.parts.isEmpty

/-- The parts that name something: `.` counts only at the beginning of a relative path. -/
def components (p : Path) : List String :=
  match p.isAbsolute, p.parts with
  | false, "." :: parts => "." :: parts.filter (· != ".")
  | _, parts => parts.filter (· != ".")

/-- Whether a piece after the first one names nothing. -/
def isSilent (piece : String) : Bool :=
  piece.isEmpty || piece = "."

/-- The path up to its last component but one, if it has a component. -/
def parent? (p : Path) : Option Path :=
  if p.components.isEmpty then none
  else
    match p.pieces.tail.reverse.dropWhile isSilent with
    | [] => some ⟨[""]⟩
    | _ :: above =>
      match p.isAbsolute, above.dropWhile isSilent with
      | true, [] => some ⟨["", ""]⟩
      | _, above => some ⟨p.pieces.take 1 ++ above.reverse⟩

/-! ## Limits -/

/-- The longest name in bytes. -/
def nameLimit : Nat := 255

/-- The longest path in bytes. -/
def sizeLimit : Nat := 4095

def containsNul (part : String) : Bool :=
  part.toList.contains '\x00'

/-- Whether a part can be the name of anything. -/
def isName (part : String) : Bool :=
  part.utf8ByteSize ≤ nameLimit && !containsNul part

/-- Whether a path can be followed or made at all. -/
def isUsable (p : Path) : Bool :=
  p.size ≤ sizeLimit && !p.parts.any containsNul

end Path

end Temperament
