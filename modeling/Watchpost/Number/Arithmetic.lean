import Watchpost.Number.Binary64

set_option autoImplicit false

/-! # Arithmetic on doubles

The four operations and powers, each rounded once. The remainder is exact and takes the sign of the
dividend; `euclideanDiv` rounds the quotient so that the remainder is not negative. -/

namespace Watchpost.Binary64

/-- Apply an operation of the machine. -/
def machine (op : Float → Float → Float) (x y : Binary64) : Binary64 :=
  ⟨(op (Float.ofBits x.bits) (Float.ofBits y.bits)).toBits⟩

/-- The rounded sum. -/
def plus : Binary64 → Binary64 → Binary64 := machine (· + ·)

/-- The rounded difference. -/
def minus : Binary64 → Binary64 → Binary64 := machine (· - ·)

/-- The rounded product. -/
def times : Binary64 → Binary64 → Binary64 := machine (· * ·)

/-- The rounded quotient; a division by zero is infinite or no number. -/
def dividedBy : Binary64 → Binary64 → Binary64 := machine (· / ·)

/-- The power. -/
def toThe : Binary64 → Binary64 → Binary64 := machine Float.pow

/-- The remainder of a division toward zero. -/
def remainder (x y : Binary64) : Binary64 :=
  if !x.isFinite || y.isNaN || y.units == 0 then nan
  else if !y.isFinite then x
  else ofRatio x.isNegative (x.units % y.units) unitsPerOne

/-- A double cut to a whole number toward zero. -/
def cut (x : Binary64) : Binary64 :=
  if x.isFinite then ofRatio x.isNegative (x.units / unitsPerOne) 1 else x

/-- The whole quotient that leaves a remainder that is not negative. -/
def euclideanDiv (x y : Binary64) : Binary64 :=
  let q := (x.dividedBy y).cut
  if (x.remainder y).lessThan zero then
    if zero.lessThan y then q.minus (ofNat 1) else q.plus (ofNat 1)
  else q

/-- A double rounded to a whole number, a half going away from zero. -/
def rounded (x : Binary64) : Binary64 :=
  if x.isFinite then ofRatio x.isNegative (roundHalfUp x.units unitsPerOne) 1 else x

/-- A number that orders all doubles, a negative zero below a positive one. -/
def totalKey (x : Binary64) : Int :=
  if x.isNegative then -((x.bits.toNat % Nat.pow 2 63 : Nat) : Int) - 1 else (x.bits.toNat : Int)

end Watchpost.Binary64
