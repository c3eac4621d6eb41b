import Temperament.Text.Blank
import Temperament.Text.Decimal

/-!
# Calendar dates

Dates of the proleptic Gregorian calendar with a year 0, for the years -262143 to 262142, their
written form `YYYY-MM-DD`, and a reader that also takes shorter numerals, a signed year of any
length, and blanks before a numeral, before a hyphen and at the end.
-/

namespace Temperament

namespace Date

def isLeap (year : Int) : Bool :=
  year % 4 == 0 && year % 100 != 0 || year % 400 == 0

def daysIn (year : Int) (month : Nat) : Nat :=
  if month == 2 then (if isLeap year then 29 else 28)
  else if month == 4 || month == 6 || month == 9 || month == 11 then 30
  else 31

def isValid (year : Int) (month day : Nat) : Bool :=
  -262143 ≤ year && year ≤ 262142 && 1 ≤ month && month ≤ 12 && 1 ≤ day && day ≤ daysIn year month

end Date

structure Date where
  year : Int
  month : Nat
  day : Nat
  valid : Date.isValid year month day = true := by decide
  deriving DecidableEq

namespace Date

open Text

def ofFields? (year : Int) (month day : Nat) : Option Date :=
  if h : isValid year month day = true then some ⟨year, month, day, h⟩ else none

/-! ## Writing -/

/-- The year with four digits at least, and a sign outside the years 0 to 9999. -/
def yearText (year : Int) : List Char :=
  if year < 0 then '-' :: paddedDigits 4 year.natAbs
  else if year ≤ 9999 then paddedDigits 4 year.natAbs
  else '+' :: paddedDigits 4 year.natAbs

def write (d : Date) : List Char :=
  yearText d.year ++ '-' :: paddedDigits 2 d.month ++ '-' :: paddedDigits 2 d.day

def text (d : Date) : String :=
  String.ofList d.write

instance : ToString Date := ⟨text⟩

/-! ## Reading -/

/-- A numeral of at most `width` digits at the beginning of a text. -/
def readShort? (width : Nat) (cs : List Char) : Option (Nat × List Char) :=
  let ds := (cs.take width).takeWhile Char.isDigit
  if ds.isEmpty then none else some (ofDigits ds, cs.drop ds.length)

def readLong? (cs : List Char) : Option (Nat × List Char) :=
  let (ds, rest) := spanDigits cs
  if ds.isEmpty then none else some (ofDigits ds, rest)

/-- A year: at most four digits without a sign, any number of digits after one. -/
def readYear? : List Char → Option (Int × List Char)
  | '-' :: cs => (readLong? cs).map fun (n, rest) => (-(n : Int), rest)
  | '+' :: cs => (readLong? cs).map fun (n, rest) => ((n : Int), rest)
  | cs => (readShort? 4 cs).map fun (n, rest) => ((n : Int), rest)

def readHyphen? (cs : List Char) : Option (List Char) :=
  match trimStart cs with
  | '-' :: rest => some rest
  | _ => none

def read? (cs : List Char) : Option Date := do
  let (year, cs) ← readYear? (trimStart cs)
  let cs ← readHyphen? cs
  let (month, cs) ← readShort? 2 (trimStart cs)
  let cs ← readHyphen? cs
  let (day, cs) ← readShort? 2 (trimStart cs)
  if (trimStart cs).isEmpty then ofFields? year month day else none

def ofText? (s : String) : Option Date :=
  read? s.toList

end Date

end Temperament
