/-!
# Styled text

A text in spans, each with a style.  Rendered in colour, a styled span stands between the sequence
that begins its style and the one that ends all styles; rendered plain, it is its text.
-/

namespace Temperament

inductive Colour
  | green
  | yellow
  | cyan
  deriving DecidableEq, Inhabited

def Colour.code : Colour → Nat
  | green => 32
  | yellow => 33
  | cyan => 36

structure Style where
  isBold : Bool := false
  isDim : Bool := false
  colour : Option Colour := none
  deriving DecidableEq, Inhabited

namespace Style

/-- The codes of a style in the order they are written. -/
def codes (style : Style) : List Nat :=
  (if style.isBold then [1] else []) ++ (if style.isDim then [2] else []) ++
    (style.colour.map Colour.code).toList

/-- The sequence that sets the attributes with the given codes. -/
def sequence (codes : List Nat) : String :=
  "\x1b[" ++ ";".intercalate (codes.map toString) ++ "m"

def start (style : Style) : String := sequence style.codes

/-- The sequence that ends all styles. -/
def reset : String := sequence [0]

def bold : Style := { isBold := true }

def dim : Style := { isDim := true }

def inColour (colour : Colour) : Style := { colour := some colour }

def boldInColour (colour : Colour) : Style := { isBold := true, colour := some colour }

end Style

structure Span where
  style : Style := {}
  text : String
  deriving DecidableEq, Inhabited

abbrev Styled := List Span

/-- A text in no particular style. -/
def plain (s : String) : Styled := [⟨{}, s⟩]

def Style.apply (style : Style) (s : String) : Styled := [⟨style, s⟩]

/-! ## Rendering -/

/-- The text with `addition` after each occurrence of `mark`. -/
def insertAfter (mark addition : List Char) (cs : List Char) : List Char :=
  match cs with
  | [] => []
  | c :: rest =>
    if mark.isPrefixOf (c :: rest) ∧ mark ≠ [] then
      mark ++ addition ++ insertAfter mark addition ((c :: rest).drop mark.length)
    else c :: insertAfter mark addition rest
termination_by cs.length
decreasing_by
  · rename_i h
    have := List.length_pos_iff.2 h.2
    simp only [List.length_drop, List.length_cons]
    omega
  · simp

namespace Span

/-- The span in colour; its style is taken up again after a reset within its text. -/
def coloured (span : Span) : String :=
  if span.style.codes.isEmpty then span.text
  else
    span.style.start ++
      String.ofList (insertAfter Style.reset.toList span.style.start.toList span.text.toList) ++
      Style.reset

def render (inColour : Bool) (span : Span) : String :=
  if inColour then span.coloured else span.text

end Span

namespace Styled

def render (inColour : Bool) (t : Styled) : String :=
  String.join (t.map (Span.render inColour))

end Styled

end Temperament
