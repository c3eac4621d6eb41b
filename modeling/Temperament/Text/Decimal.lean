/-!
# Decimal numerals

Natural numbers as ASCII digits.  `digits` writes the shortest numeral; `readUnsigned?` reads a
numeral with any number of leading zeros and at most one `+`, below a limit.
-/

namespace Temperament.Text

def digits (n : Nat) : List Char :=
  Nat.toDigits 10 n

/-- The number that a run of digits denotes. -/
def ofDigits (ds : List Char) : Nat :=
  Nat.ofDigitChars 10 ds 0

theorem ofDigits_digits (n : Nat) : ofDigits (digits n) = n :=
  Nat.ofDigitChars_toDigits (by decide) (by decide)

/-- One or more ASCII digits. -/
def isNumeral (cs : List Char) : Bool :=
  !cs.isEmpty && cs.all Char.isDigit

theorem isNumeral_digits (n : Nat) : isNumeral (digits n) = true := by
  simp only [isNumeral, Bool.and_eq_true, Bool.not_eq_true', List.isEmpty_eq_false_iff,
    List.all_eq_true]
  exact ⟨Nat.toDigits_ne_nil, fun c hc => Nat.isDigit_of_mem_toDigits (by decide) (by decide) hc⟩

/-- Reads a numeral that denotes a number below `limit`. -/
def readNumeral? (limit : Nat) (cs : List Char) : Option Nat :=
  if isNumeral cs && ofDigits cs < limit then some (ofDigits cs) else none

theorem readNumeral?_digits {limit n : Nat} (h : n < limit) :
    readNumeral? limit (digits n) = some n := by
  simp [readNumeral?, isNumeral_digits, ofDigits_digits, h]

/-- Reads a numeral below `limit` that may follow one `+`. -/
def readUnsigned? (limit : Nat) : List Char → Option Nat
  | '+' :: cs => readNumeral? limit cs
  | cs => readNumeral? limit cs

/-- The digits of `n`, filled up with zeros on the left to at least `width` characters. -/
def paddedDigits (width n : Nat) : List Char :=
  List.replicate (width - (digits n).length) '0' ++ digits n

/-- Splits off the digits that a text begins with. -/
def spanDigits (cs : List Char) : List Char × List Char :=
  (cs.takeWhile Char.isDigit, cs.dropWhile Char.isDigit)

theorem spanDigits_append (cs : List Char) : (spanDigits cs).1 ++ (spanDigits cs).2 = cs :=
  List.takeWhile_append_dropWhile

theorem spanDigits_length (cs : List Char) :
    (spanDigits cs).1.length + (spanDigits cs).2.length = cs.length := by
  rw [← List.length_append, spanDigits_append]

/-- Splits off a sign. -/
def spanSign : List Char → List Char × List Char
  | '+' :: cs => (['+'], cs)
  | '-' :: cs => (['-'], cs)
  | cs => ([], cs)

theorem spanSign_le (cs : List Char) : (spanSign cs).2.length ≤ cs.length := by
  unfold spanSign
  split <;> simp

def decimal (n : Nat) : String :=
  String.ofList (digits n)

end Temperament.Text
