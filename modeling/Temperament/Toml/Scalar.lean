import Temperament.Binary64
import Temperament.Date
import Temperament.Text.Hexadecimal
import Temperament.Toml.Tree

/-!
# Numbers, dates and booleans of a settings document

Integers are signed 64-bit numbers in base 10, 16, 8 or 2, their digits in groups separated by
single underscores.  A float must not round to plus infinity.  Dates, times of day and offsets are
checked, the calendar included.
-/

namespace Temperament.Toml

open Text

/-! ## Digits in groups -/

/-- The digits after the first one, with single underscores between them left out. -/
def moreDigits (isDigit : Char → Bool) : List Char → List Char × List Char
  | '_' :: c :: cs =>
    if isDigit c then (c :: (moreDigits isDigit cs).1, (moreDigits isDigit cs).2)
    else ([], '_' :: c :: cs)
  | c :: cs =>
    if isDigit c then (c :: (moreDigits isDigit cs).1, (moreDigits isDigit cs).2)
    else ([], c :: cs)
  | [] => ([], [])

/-- One or more digits in groups. -/
def readGroups? (isDigit : Char → Bool) : List Char → Option (List Char × List Char)
  | [] => none
  | c :: cs =>
    if isDigit c then
      let (ds, rest) := moreDigits isDigit cs
      some (c :: ds, rest)
    else none

/-- The digits of a whole number: a zero alone, or groups that begin with another digit. -/
def readWhole? (cs : List Char) : Option (List Char × List Char) :=
  if cs.head? = some '0' then some (['0'], cs.tail) else readGroups? Char.isDigit cs

/-! ## Integers -/

/-- The first number beyond the signed 64-bit integers. -/
def integerLimit : Nat := 9223372036854775808

/-- The digits of a base that its mark `0x`, `0o` or `0b` announces. -/
def readBased? (isDigit : Char → Bool) (base : Nat) (cs : List Char) :
    Option (Toml × List Char) := do
  let (ds, rest) ← readGroups? isDigit cs
  let n ← ds.foldlM (fun n c => (hexValue? c).map (base * n + ·)) 0
  if n < integerLimit then some (integer n, rest) else none

def readDecimal? (cs : List Char) : Option (Toml × List Char) := do
  let (sign, cs) := spanSign cs
  let (ds, rest) ← readWhole? cs
  let n := ofDigits ds
  if sign = ['-'] then (if n ≤ integerLimit then some (integer (-n), rest) else none)
  else if n < integerLimit then some (integer n, rest)
  else none

def readInteger? : List Char → Option (Toml × List Char)
  | '0' :: 'x' :: cs => readBased? (fun c => (hexValue? c).isSome) 16 cs
  | '0' :: 'o' :: cs => readBased? (fun c => '0' ≤ c ∧ c ≤ '7') 8 cs
  | '0' :: 'b' :: cs => readBased? (fun c => c = '0' ∨ c = '1') 2 cs
  | cs => readDecimal? cs

/-! ## Floats -/

/-- The digits after the point; none if there is no point. -/
def readFraction? : List Char → Option (List Char × List Char)
  | '.' :: cs => readGroups? Char.isDigit cs
  | cs => some ([], cs)

/-- The exponent; zero if there is no mark of one. -/
def readExponent? : List Char → Option (Int × List Char)
  | [] => some (0, [])
  | c :: cs =>
    if c = 'e' ∨ c = 'E' then do
      let (sign, cs) := spanSign cs
      let (ds, rest) ← readGroups? Char.isDigit cs
      some (if sign = ['-'] then -(ofDigits ds : Int) else ofDigits ds, rest)
    else some (0, c :: cs)

/-- What was read of a text, given what is left of it. -/
def lexeme (cs rest : List Char) : List Char :=
  cs.take (cs.length - rest.length)

def readFloat? (cs : List Char) : Option (Toml × List Char) := do
  let (sign, afterSign) := spanSign cs
  match afterSign with
  | 'i' :: 'n' :: 'f' :: rest => some (float (lexeme cs rest), rest)
  | 'n' :: 'a' :: 'n' :: rest => some (float (lexeme cs rest), rest)
  | _ =>
    let (whole, afterWhole) ← readWhole? afterSign
    let (fraction, afterFraction) ← readFraction? afterWhole
    let (exponent, rest) ← readExponent? afterFraction
    if rest.length = afterWhole.length then none
    else if sign = ['-'] ∨
        Binary64.isFiniteDecimal (ofDigits (whole ++ fraction)) (exponent - fraction.length) then
      some (float (lexeme cs rest), rest)
    else none

/-! ## Dates and times -/

/-- A number of exactly `width` digits. -/
def readFixed? (width : Nat) (cs : List Char) : Option (Nat × List Char) :=
  let ds := cs.take width
  if ds.length = width ∧ isNumeral ds then some (ofDigits ds, cs.drop width) else none

def readMark? (mark : Char) : List Char → Option (List Char)
  | c :: cs => if c = mark then some cs else none
  | [] => none

def readDate? (cs : List Char) : Option (List Char) := do
  let (year, cs) ← readFixed? 4 cs
  let cs ← readMark? '-' cs
  let (month, cs) ← readFixed? 2 cs
  let cs ← readMark? '-' cs
  let (day, cs) ← readFixed? 2 cs
  if Date.isValid year month day then some cs else none

/-- Hours and minutes. -/
def readClock? (cs : List Char) : Option (List Char) := do
  let (hour, cs) ← readFixed? 2 cs
  let cs ← readMark? ':' cs
  let (minute, cs) ← readFixed? 2 cs
  if hour ≤ 23 ∧ minute ≤ 59 then some cs else none

/-- A time of day, with a leap second allowed. -/
def readTime? (cs : List Char) : Option (List Char) := do
  let cs ← readClock? cs
  let cs ← readMark? ':' cs
  let (second, cs) ← readFixed? 2 cs
  if second ≤ 60 then
    match cs with
    | '.' :: rest =>
      let (ds, rest) := spanDigits rest
      some (if ds.isEmpty then cs else rest)
    | _ => some cs
  else none

def readOffset? : List Char → Option (List Char)
  | [] => none
  | c :: cs =>
    if c = 'Z' ∨ c = 'z' then some cs
    else if c = '+' ∨ c = '-' then readClock? cs
    else none

/-- The time and the offset that may follow a date. -/
def readDayTime? : List Char → Option (List Char)
  | [] => none
  | c :: cs =>
    if c = 'T' ∨ c = 't' ∨ c = ' ' then
      (readTime? cs).map fun rest => (readOffset? rest).getD rest
    else none

def readMoment? (cs : List Char) : Option (Toml × List Char) := do
  let rest ←
    match readDate? cs with
    | some rest => some ((readDayTime? rest).getD rest)
    | none => readTime? cs
  some (moment (lexeme cs rest), rest)

/-! ## Scalars -/

def readBoolean? : List Char → Option (Toml × List Char)
  | 't' :: 'r' :: 'u' :: 'e' :: cs => some (boolean true, cs)
  | 'f' :: 'a' :: 'l' :: 's' :: 'e' :: cs => some (boolean false, cs)
  | _ => none

/-- A value that is neither a string nor a composite one. -/
def readScalar? (cs : List Char) : Option (Toml × List Char) :=
  readBoolean? cs <|> readMoment? cs <|> readFloat? cs <|> readInteger? cs

end Temperament.Toml
