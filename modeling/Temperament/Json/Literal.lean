import Temperament.Text.Hexadecimal

/-!
# String literals

The text between the quotes of a JSON string, as pieces: a character written as itself, a short
escape such as `\n`, or a UTF-16 unit written as `\u` and four hexadecimal digits.  Pieces denote
characters (`decode?`) unless a surrogate unit stands alone.  `encode` writes a short escape where
there is one, a unit for the other control characters, and every other character as itself.
-/

namespace Temperament.Json

open Text

inductive Piece
  | plain (c : Char)
  /-- A character written as a backslash and one letter or mark. -/
  | short (c : Char)
  /-- A UTF-16 unit. -/
  | unit (n : Nat)
  deriving DecidableEq, Inhabited

/-! ## Written form -/

/-- The mark after the backslash of a short escape. -/
def escapeMark? (c : Char) : Option Char :=
  if c = '"' then some '"'
  else if c = '\\' then some '\\'
  else if c = '\x08' then some 'b'
  else if c = '\x0c' then some 'f'
  else if c = '\n' then some 'n'
  else if c = '\r' then some 'r'
  else if c = '\t' then some 't'
  else none

/-- The character of a short escape; a slash may be escaped but is written as itself. -/
def escapedChar? (mark : Char) : Option Char :=
  if mark = '"' then some '"'
  else if mark = '\\' then some '\\'
  else if mark = '/' then some '/'
  else if mark = 'b' then some '\x08'
  else if mark = 'f' then some '\x0c'
  else if mark = 'n' then some '\n'
  else if mark = 'r' then some '\r'
  else if mark = 't' then some '\t'
  else none

def hexDigits (n : Nat) : List Char :=
  [(n / 4096 % 16).digitChar, (n / 256 % 16).digitChar, (n / 16 % 16).digitChar,
    (n % 16).digitChar]

def Piece.text : Piece → List Char
  | plain c => [c]
  | short c => ['\\', (escapeMark? c).getD c]
  | unit n => '\\' :: 'u' :: hexDigits n

def isControl (c : Char) : Bool :=
  c.toNat < 0x20

/-! ## Meaning -/

def isHighSurrogate (n : Nat) : Bool := 0xD800 ≤ n && n < 0xDC00

def isLowSurrogate (n : Nat) : Bool := 0xDC00 ≤ n && n < 0xE000

/-- The character that a pair of surrogates denotes. -/
def surrogatePair (high low : Nat) : Char :=
  Char.ofNat (0x10000 + (high - 0xD800) * 0x400 + (low - 0xDC00))

def decode? : List Piece → Option (List Char)
  | [] => some []
  | .plain c :: rest => (decode? rest).map (c :: ·)
  | .short c :: rest => (decode? rest).map (c :: ·)
  | .unit high :: .unit low :: rest =>
    if isLowSurrogate high then none
    else if isHighSurrogate high then
      if isLowSurrogate low then (decode? rest).map (surrogatePair high low :: ·) else none
    else (decode? (.unit low :: rest)).map (Char.ofNat high :: ·)
  | .unit n :: rest =>
    if isHighSurrogate n || isLowSurrogate n then none
    else (decode? rest).map (Char.ofNat n :: ·)

def encodeChar (c : Char) : Piece :=
  if (escapeMark? c).isSome then .short c
  else if isControl c then .unit c.toNat
  else .plain c

def encode (cs : List Char) : List Piece :=
  cs.map encodeChar

/-- The characters of a literal without any escape. -/
def plain? (pieces : List Piece) : Option (List Char) :=
  pieces.mapM fun
    | .plain c => some c
    | _ => none

/-! ## Reading -/

def readEscape? : List Char → Option (Piece × List Char)
  | 'u' :: a :: b :: c :: d :: rest => (hexNumber? [a, b, c, d]).map fun n => (.unit n, rest)
  | mark :: rest => (escapedChar? mark).map fun c => (.short c, rest)
  | [] => none

def readPiece? : List Char → Option (Piece × List Char)
  | [] => none
  | c :: rest =>
    if c = '\\' then readEscape? rest
    else if c = '"' ∨ isControl c then none
    else some (.plain c, rest)

theorem readEscape?_shorter {cs rest : List Char} {p : Piece}
    (h : readEscape? cs = some (p, rest)) : rest.length < cs.length := by
  unfold readEscape? at h
  split at h
  · simp only [Option.map_eq_some_iff, Prod.mk.injEq] at h
    obtain ⟨-, -, -, rfl⟩ := h
    simp only [List.length_cons]
    omega
  · simp only [Option.map_eq_some_iff, Prod.mk.injEq] at h
    obtain ⟨-, -, -, rfl⟩ := h
    simp
  · simp at h

theorem readPiece?_shorter {cs rest : List Char} {p : Piece} (h : readPiece? cs = some (p, rest)) :
    rest.length < cs.length := by
  unfold readPiece? at h
  split at h
  · simp at h
  · split at h
    · exact Nat.lt_succ_of_lt (readEscape?_shorter h)
    · split at h
      · simp at h
      · simp only [Option.some.injEq, Prod.mk.injEq] at h
        simp [← h.2]

/-- Reads the rest of a literal after its opening quote, up to the closing one. -/
def readPieces? (cs : List Char) : Option (List Piece × List Char) :=
  if cs.head? = some '"' then some ([], cs.tail)
  else
    match _h : readPiece? cs with
    | none => none
    | some (p, rest) => (readPieces? rest).map fun (ps, rest') => (p :: ps, rest')
termination_by cs.length
decreasing_by exact readPiece?_shorter _h

theorem readPieces?_shorter {cs rest : List Char} {ps : List Piece}
    (h : readPieces? cs = some (ps, rest)) : rest.length < cs.length := by
  fun_induction readPieces? cs generalizing ps rest with
  | case1 cs hq =>
    cases cs with
    | nil => simp at hq
    | cons c cs => simp_all
  | case2 => simp at h
  | case3 cs hq p rest' hp ih =>
    simp only [Option.map_eq_some_iff, Prod.mk.injEq] at h
    obtain ⟨⟨ps', rest''⟩, hr, -, rfl⟩ := h
    exact Nat.lt_trans (ih hr) (readPiece?_shorter hp)

end Temperament.Json
