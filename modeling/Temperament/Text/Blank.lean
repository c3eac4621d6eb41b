import Temperament.Text.Range

/-!
# Blank characters

The characters with the Unicode property White_Space, and trimming by them.  Look-alikes without
the property, such as U+200B or U+FEFF, are not blank.  Texts are lists of characters here.
-/

namespace Temperament.Text

/-- The code point ranges of the property White_Space: 25 code points in 10 ranges. -/
def blankRanges : Ranges :=
  [(0x09, 0x0D), (0x20, 0x20), (0x85, 0x85), (0xA0, 0xA0), (0x1680, 0x1680), (0x2000, 0x200A),
    (0x2028, 0x2029), (0x202F, 0x202F), (0x205F, 0x205F), (0x3000, 0x3000)]

def isBlank (c : Char) : Bool :=
  blankRanges.contains c

theorem isBlank_of_isWhitespace {c : Char} (h : c.isWhitespace = true) : isBlank c = true := by
  simp only [Char.isWhitespace, Bool.or_eq_true, decide_eq_true_eq] at h
  rcases h with ((rfl | rfl) | rfl) | rfl <;> decide

/-! ## Trimming -/

def trimStart (cs : List Char) : List Char :=
  cs.dropWhile isBlank

def trimEnd (cs : List Char) : List Char :=
  (cs.reverse.dropWhile isBlank).reverse

def trim (cs : List Char) : List Char :=
  trimEnd (trimStart cs)

/-- The text without its blank characters at both ends. -/
def trimmed (s : String) : String :=
  String.ofList (trim s.toList)

end Temperament.Text
