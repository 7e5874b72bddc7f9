set_option autoImplicit false

/-! # Double-precision numbers

A double is its 64 bits: a sign, an exponent field of 11 bits and a fraction of 52 bits. Its
magnitude is a whole multiple of `2 ^ -1074`, the smallest positive double; `units` is that
multiple, and `scaled` carries the sign as well. Order and equality are order and equality of
`scaled`, so they are decided on integers. `ofRatio` rounds an exact quotient to the nearest
double, a tie going to the even fraction, and every reading and every product here goes through
it. -/

namespace Watchpost

/-- A double-precision number, given by its bits. -/
structure Binary64 where
  bits : UInt64
deriving DecidableEq, Repr, Inhabited

namespace Binary64

/-! ## The three fields -/

/-- The sign bit. -/
def isNegative (x : Binary64) : Bool :=
  decide (Nat.pow 2 63 ≤ x.bits.toNat)

/-- The eleven bits of the exponent field. -/
def exponentField (x : Binary64) : Nat :=
  x.bits.toNat / Nat.pow 2 52 % Nat.pow 2 11

/-- The 52 bits of the fraction. -/
def fraction (x : Binary64) : Nat :=
  x.bits.toNat % Nat.pow 2 52

/-- Neither an infinity nor a NaN. -/
def isFinite (x : Binary64) : Bool :=
  x.exponentField != 2047

/-- Not a number. -/
def isNaN (x : Binary64) : Bool :=
  x.exponentField == 2047 && x.fraction != 0

/-- How many units make one. -/
def unitsPerOne : Nat :=
  Nat.pow 2 1074

/-- The magnitude in units of `2 ^ -1074`; an infinity lies above every finite magnitude. -/
def units (x : Binary64) : Nat :=
  if x.exponentField = 0 then x.fraction
  else (Nat.pow 2 52 + x.fraction) * Nat.pow 2 (x.exponentField - 1)

/-- The signed value in units of `2 ^ -1074`. -/
def scaled (x : Binary64) : Int :=
  if x.isNegative then -(x.units : Int) else x.units

/-! ## Order -/

/-- Equality of values: both zeros are equal, and a NaN equals nothing. -/
def equals (x y : Binary64) : Bool :=
  !x.isNaN && !y.isNaN && decide (x.scaled = y.scaled)

/-- Strict order of values; a NaN is not in it. -/
def lessThan (x y : Binary64) : Bool :=
  !x.isNaN && !y.isNaN && decide (x.scaled < y.scaled)

/-- Order of values; a NaN is not in it. -/
def atMost (x y : Binary64) : Bool :=
  !x.isNaN && !y.isNaN && decide (x.scaled ≤ y.scaled)

/-! ## Rounding -/

/-- The whole number nearest to `num / den`, a tie going to the even one. -/
def roundHalfEven (num den : Nat) : Nat :=
  let q := num / den
  let r := num % den
  if 2 * r < den then q
  else if den < 2 * r then q + 1
  else if q % 2 = 0 then q else q + 1

/-- The whole number nearest to `num / den`, a tie going away from zero. -/
def roundHalfUp (num den : Nat) : Nat :=
  (2 * num + den) / (2 * den)

/-- The bits of the double nearest to `num / den`. With `shift` chosen so that the significand has
    53 bits, or zero for the smallest magnitudes, exponent field and fraction together are
    `shift * 2 ^ 52 + significand`, also where rounding carries into the next power of two. -/
def magnitudeBits (num den : Nat) : Nat :=
  let shift := Nat.log2 (num * unitsPerOne / den) - 52
  let significand := roundHalfEven (num * unitsPerOne) (den * Nat.pow 2 shift)
  min (shift * Nat.pow 2 52 + significand) (2047 * Nat.pow 2 52)

/-- A double from its sign and the other 63 bits. -/
def ofMagnitude (negative : Bool) (magnitude : Nat) : Binary64 :=
  ⟨UInt64.ofNat ((if negative then Nat.pow 2 63 else 0) + magnitude)⟩

/-- The double nearest to a quotient; one that is too large is infinite. -/
def ofRatio (negative : Bool) (num den : Nat) : Binary64 :=
  ofMagnitude negative (magnitudeBits num den)

/-- The double nearest to a natural number. -/
def ofNat (n : Nat) : Binary64 :=
  ofRatio false n 1

/-- The double nearest to an integer. -/
def ofInt (n : Int) : Binary64 :=
  ofRatio (decide (n < 0)) n.natAbs 1

/-- The double nearest to `significand * 10 ^ exponent`. Exponents far outside the range of
    doubles are settled by the number of digits alone. -/
def ofDecimal (negative : Bool) (significand : Nat) (exponent : Int) : Binary64 :=
  let places : Int := significand.repr.length + exponent
  if significand = 0 ∨ places < -330 then ofMagnitude negative 0
  else if 310 < places then ofMagnitude negative (2047 * Nat.pow 2 52)
  else if exponent < 0 then ofRatio negative significand (Nat.pow 10 exponent.natAbs)
  else ofRatio negative (significand * Nat.pow 10 exponent.natAbs) 1

/-- Positive infinity. -/
def infinity : Binary64 := ofMagnitude false (2047 * Nat.pow 2 52)

/-- Negative infinity. -/
def negInfinity : Binary64 := ofMagnitude true (2047 * Nat.pow 2 52)

/-- The NaN with an empty payload. -/
def nan : Binary64 := ofMagnitude false (2047 * Nat.pow 2 52 + Nat.pow 2 51)

/-- Positive zero. -/
def zero : Binary64 := ofMagnitude false 0

/-! ## Arithmetic -/

/-- The same magnitude with the other sign. -/
def neg (x : Binary64) : Binary64 :=
  ofMagnitude (!x.isNegative) (x.bits.toNat % Nat.pow 2 63)

/-- The product of two doubles, rounded. That of an infinity and a zero is not a number. -/
def mul (x y : Binary64) : Binary64 :=
  let negative := x.isNegative != y.isNegative
  if x.isNaN || y.isNaN then nan
  else if x.isFinite && y.isFinite then ofRatio negative (x.units * y.units) (Nat.pow 2 2148)
  else if x.units = 0 || y.units = 0 then nan
  else ofMagnitude negative (2047 * Nat.pow 2 52)

/-- The quotient of two finite doubles, the second not zero, rounded. -/
def div (x y : Binary64) : Binary64 :=
  ofRatio (x.isNegative != y.isNegative) x.units y.units

/-- Whether a finite double is a whole number. -/
def isWhole (x : Binary64) : Bool :=
  x.isFinite && x.units % unitsPerOne == 0

/-- The integer nearest to a finite double, a half going away from zero. -/
def roundToInt (x : Binary64) : Int :=
  let magnitude : Nat := roundHalfUp x.units unitsPerOne
  if x.isNegative then -(magnitude : Int) else magnitude

/-- The integer part of a finite double, cut toward zero. -/
def truncate (x : Binary64) : Int :=
  let magnitude : Nat := x.units / unitsPerOne
  if x.isNegative then -(magnitude : Int) else magnitude

/-- The signed integer of 64 bits nearest to `n`. -/
def clampToWord (n : Int) : Int :=
  max (-9223372036854775808) (min n 9223372036854775807)

/-- The nearest integer within 64 signed bits; a NaN counts as zero. -/
def roundToWord (x : Binary64) : Int :=
  if x.isNaN then 0 else clampToWord x.roundToInt

end Binary64

end Watchpost
