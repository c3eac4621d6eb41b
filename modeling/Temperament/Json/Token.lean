import Temperament.Json.Literal
import Temperament.Text.Decimal

/-!
# Tokens of a JSON text

A text is a sequence of tokens with JSON white space between them.  A number is kept as written,
the longest stretch that has the form of a number.  `scan?` reads a whole text; it fails at the
first character that begins no token.
-/

namespace Temperament.Json

open Text

inductive Token
  | openObject
  | closeObject
  | openArray
  | closeArray
  | colon
  | comma
  | null
  | bool (b : Bool)
  | number (literal : List Char)
  | string (pieces : List Piece)
  deriving DecidableEq, Inhabited

def Token.text : Token → List Char
  | openObject => ['\x7b']
  | closeObject => ['\x7d']
  | openArray => ['[']
  | closeArray => [']']
  | colon => [':']
  | comma => [',']
  | null => "null".toList
  | bool true => "true".toList
  | bool false => "false".toList
  | number literal => literal
  | string pieces => '"' :: (pieces.flatMap Piece.text ++ ['"'])

/-! ## Numbers -/

/-- The digits before the point: a zero alone, or digits that begin with another one. -/
def spanInteger (cs : List Char) : List Char × List Char :=
  if cs.head? = some '0' then (['0'], cs.tail) else spanDigits cs

/-- The point and the digits after it, nothing if no digit follows. -/
def spanFraction : List Char → List Char × List Char
  | '.' :: cs =>
    let (ds, rest) := spanDigits cs
    if ds.isEmpty then ([], '.' :: cs) else ('.' :: ds, rest)
  | cs => ([], cs)

/-- The mark of an exponent, its sign and its digits, nothing if no digit follows. -/
def spanExponent : List Char → List Char × List Char
  | [] => ([], [])
  | c :: cs =>
    if c = 'e' ∨ c = 'E' then
      let (sign, afterSign) := spanSign cs
      let (ds, rest) := spanDigits afterSign
      if ds.isEmpty then ([], c :: cs) else (c :: (sign ++ ds), rest)
    else ([], c :: cs)

/-- The number at the beginning of a text, without its minus sign. -/
def readMagnitude? (cs : List Char) : Option (List Char × List Char) :=
  let (whole, cs) := spanInteger cs
  let (fraction, cs) := spanFraction cs
  let (exponent, rest) := spanExponent cs
  if whole.isEmpty then none else some (whole ++ fraction ++ exponent, rest)

def readNumber? : List Char → Option (List Char × List Char)
  | '-' :: cs => (readMagnitude? cs).map fun (literal, rest) => ('-' :: literal, rest)
  | cs => readMagnitude? cs

/-! ## Scanning -/

def isSpace (c : Char) : Bool :=
  c == ' ' || c == '\n' || c == '\t' || c == '\r'

def readToken? : List Char → Option (Token × List Char)
  | '\x7b' :: cs => some (.openObject, cs)
  | '\x7d' :: cs => some (.closeObject, cs)
  | '[' :: cs => some (.openArray, cs)
  | ']' :: cs => some (.closeArray, cs)
  | ':' :: cs => some (.colon, cs)
  | ',' :: cs => some (.comma, cs)
  | 'n' :: 'u' :: 'l' :: 'l' :: cs => some (.null, cs)
  | 't' :: 'r' :: 'u' :: 'e' :: cs => some (.bool true, cs)
  | 'f' :: 'a' :: 'l' :: 's' :: 'e' :: cs => some (.bool false, cs)
  | '"' :: cs => (readPieces? cs).map fun (pieces, rest) => (.string pieces, rest)
  | cs => (readNumber? cs).map fun (literal, rest) => (.number literal, rest)

theorem spanInteger_length (cs : List Char) :
    (spanInteger cs).1.length + (spanInteger cs).2.length = cs.length := by
  unfold spanInteger
  split
  · cases cs with
    | nil => simp_all
    | cons c cs => simp [Nat.add_comm]
  · exact spanDigits_length cs

theorem spanFraction_le (cs : List Char) : (spanFraction cs).2.length ≤ cs.length := by
  unfold spanFraction
  split
  · rename_i cs
    have := spanDigits_length cs
    dsimp only
    split
    · exact Nat.le_refl _
    · simp only [List.length_cons]
      omega
  · exact Nat.le_refl _

theorem spanExponent_le (cs : List Char) : (spanExponent cs).2.length ≤ cs.length := by
  unfold spanExponent
  split
  · exact Nat.le_refl _
  · rename_i c cs
    have h₁ := spanSign_le cs
    have h₂ := spanDigits_length (spanSign cs).2
    dsimp only
    split
    · split
      · exact Nat.le_refl _
      · simp only [List.length_cons]
        omega
    · exact Nat.le_refl _

theorem readMagnitude?_shorter {cs rest literal : List Char}
    (h : readMagnitude? cs = some (literal, rest)) : rest.length < cs.length := by
  unfold readMagnitude? at h
  have h₁ := spanInteger_length cs
  have h₂ := spanFraction_le (spanInteger cs).2
  have h₃ := spanExponent_le (spanFraction (spanInteger cs).2).2
  dsimp only at h
  split at h
  · simp at h
  · rename_i hne
    have h₄ : 0 < (spanInteger cs).1.length := List.length_pos_iff.2 (by simpa using hne)
    simp only [Option.some.injEq, Prod.mk.injEq] at h
    rw [← h.2]
    omega

theorem readNumber?_shorter {cs rest literal : List Char}
    (h : readNumber? cs = some (literal, rest)) : rest.length < cs.length := by
  unfold readNumber? at h
  split at h
  · simp only [Option.map_eq_some_iff, Prod.mk.injEq] at h
    obtain ⟨⟨_, rest'⟩, hr, -, rfl⟩ := h
    exact Nat.lt_succ_of_lt (readMagnitude?_shorter hr)
  · exact readMagnitude?_shorter h

theorem readToken?_shorter {cs rest : List Char} {t : Token}
    (h : readToken? cs = some (t, rest)) : rest.length < cs.length := by
  unfold readToken? at h
  split at h
  case h_10 =>
    simp only [Option.map_eq_some_iff, Prod.mk.injEq] at h
    obtain ⟨⟨_, rest'⟩, hr, -, rfl⟩ := h
    exact Nat.lt_succ_of_lt (readPieces?_shorter hr)
  case h_11 =>
    simp only [Option.map_eq_some_iff, Prod.mk.injEq] at h
    obtain ⟨⟨_, rest'⟩, hr, -, rfl⟩ := h
    exact readNumber?_shorter hr
  all_goals
    simp only [Option.some.injEq, Prod.mk.injEq] at h
    simp only [← h.2, List.length_cons]
    omega

theorem dropWhile_le (p : Char → Bool) (cs : List Char) : (cs.dropWhile p).length ≤ cs.length :=
  (List.dropWhile_sublist p).length_le

/-- The tokens of a whole text. -/
def scan? (cs : List Char) : Option (List Token) :=
  if (cs.dropWhile isSpace).isEmpty then some []
  else
    match _h : readToken? (cs.dropWhile isSpace) with
    | none => none
    | some (t, rest) => (scan? rest).map (t :: ·)
termination_by cs.length
decreasing_by exact Nat.lt_of_lt_of_le (readToken?_shorter _h) (dropWhile_le isSpace cs)

end Temperament.Json
