/-!
# Binary64 numbers

The finite magnitudes of IEEE 754 binary64 are the multiples of `2 ^ -1074` with at most 53
significant bits and less than `2 ^ 1024`.  A magnitude is kept as that multiple, a natural
number, so comparison is comparison of natural numbers and every rounding is exact arithmetic.
`nearest` is the correctly rounded quotient of two natural numbers, ties to even.
-/

namespace Temperament

/-- The integer nearest to `num / den`; of two equally near ones the even one. -/
def roundHalfEven (num den : Nat) : Nat :=
  let q := num / den
  let r := num % den
  if 2 * r < den then q
  else if den < 2 * r then q + 1
  else if q % 2 = 0 then q else q + 1

inductive Binary64
  | nan
  | infinite (negative : Bool)
  /-- The number `units * 2 ^ -1074`, with a sign. -/
  | finite (negative : Bool) (units : Nat)
  deriving DecidableEq

namespace Binary64

/-- The power of two with a given exponent. -/
def twoPow (n : Nat) : Nat := Nat.pow 2 n

/-- `1` in units of `2 ^ -1074`. -/
def one : Nat := twoPow 1074

/-- The exponent of the last of the 53 significant bits of a magnitude of `units`. -/
def lastBit (units : Nat) : Nat :=
  units.log2 - 52

/-- The nearest binary64 number to `num / den`, ties to even. -/
def nearest (num den : Nat) : Binary64 :=
  let step := lastBit (num * one / den)
  let units := roundHalfEven (num * one) (den * twoPow step) * twoPow step
  if units < twoPow 1024 * one then finite false units else infinite false

def isFinite : Binary64 → Bool
  | finite _ _ => true
  | _ => false

/-- Whether the nearest number to `digits * 10 ^ exponent` is finite. -/
def isFiniteDecimal (digits : Nat) (exponent : Int) : Bool :=
  if digits = 0 then true
  else if 0 ≤ exponent then
    exponent ≤ 400 && (nearest (digits * Nat.pow 10 exponent.toNat) 1).isFinite
  else
    digits.log2 < exponent.natAbs || (nearest digits (Nat.pow 10 exponent.natAbs)).isFinite

/-! ## Bit patterns -/

def signBit (negative : Bool) : Nat :=
  if negative then twoPow 63 else 0

def toBits : Binary64 → Nat
  | nan => 2047 * twoPow 52 + twoPow 51
  | infinite negative => signBit negative + 2047 * twoPow 52
  | finite negative units =>
    signBit negative + (lastBit units * twoPow 52 + units / twoPow (lastBit units))

def ofBits (bits : Nat) : Binary64 :=
  let negative := bits / twoPow 63 % 2 == 1
  let exponent := bits / twoPow 52 % twoPow 11
  let fraction := bits % twoPow 52
  if exponent = 2047 then (if fraction = 0 then infinite negative else nan)
  else if exponent = 0 then finite negative fraction
  else finite negative ((twoPow 52 + fraction) * twoPow (exponent - 1))

/-! ## Comparison and scaling -/

/-- The order of the numbers; `nan` is not comparable. -/
def lt : Binary64 → Binary64 → Bool
  | nan, _ => false
  | _, nan => false
  | infinite a, infinite b => a && !b
  | infinite a, finite _ _ => a
  | finite _ _, infinite b => !b
  | finite a m, finite b n =>
    match a, b with
    | false, false => m < n
    | true, true => n < m
    | true, false => 0 < m || 0 < n
    | false, true => false

/-- The nearest binary64 number to `factor` times a number. -/
def scale (factor : Nat) : Binary64 → Binary64
  | nan => nan
  | infinite negative => infinite negative
  | finite negative units =>
    match nearest (factor * units) one with
    | finite _ scaled => finite negative scaled
    | _ => infinite negative

/-- The integer nearest to a magnitude, ties to even. -/
def magnitude : Binary64 → Nat
  | finite _ units => roundHalfEven units one
  | _ => 0

end Binary64

end Temperament
