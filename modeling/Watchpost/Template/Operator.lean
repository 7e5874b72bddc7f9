import Watchpost.Template.Basic
import Watchpost.Template.Value

set_option autoImplicit false

/-! # Operators on values

Integers stay integers in sums, products, whole quotients and remainders and are limited to 128
bits; a plain quotient is always a double. An operator on operands it does not fit has no value. -/

namespace Watchpost.Template

namespace Value

/-- An integer result, where it fits 128 bits. -/
def ofInt128? (n : Int) : Option Value :=
  let bound : Int := 170141183460469231731687303715884105728
  if -bound ≤ n ∧ n < bound then some (.integer n) else Option.none

/-- Apply an operation to two numbers, as integers where both are. -/
def arithmetic? (onIntegers : Int → Int → Option Int)
    (onDoubles : Binary64 → Binary64 → Option Binary64) (a b : Value) : Option Value :=
  match common asDouble? a b with
  | .integers m n => (onIntegers m n).bind ofInt128?
  | .doubles x y => (onDoubles x y).map .decimal
  | _ => Option.none

/-- The sum of numbers; texts and lists are put one after the other. -/
def add? (a b : Value) : Option Value :=
  match a, b with
  | .text s _, .text t _ => some (ofString (s ++ t))
  | .list xs, .list ys => some (.list (xs ++ ys))
  | _, _ => arithmetic? (fun m n => some (m + n)) (fun x y => some (x.plus y)) a b

/-- The product of numbers; a text or a list is repeated. -/
def mul? (a b : Value) : Option Value :=
  let times? (v : Value) : Option Nat :=
    v.asInt?.bind fun n => if n < 0 then Option.none else some n.toNat
  match a, b with
  | .text s _, n => (times? n).map fun k => ofString (String.join (List.replicate k s))
  | n, .text s _ => (times? n).map fun k => ofString (String.join (List.replicate k s))
  | .list xs, n => (times? n).map fun k => .list (List.replicate k xs).flatten
  | n, .list xs => (times? n).map fun k => .list (List.replicate k xs).flatten
  | _, _ => arithmetic? (fun m n => some (m * n)) (fun x y => some (x.times y)) a b

/-- The quotient of two numbers. -/
def div? (a b : Value) : Option Value := do
  return .decimal ((← a.asDouble?).dividedBy (← b.asDouble?))

/-- The whole quotient of two numbers. -/
def floorDiv? : Value → Value → Option Value :=
  arithmetic? (fun m n => if n = 0 then Option.none else some (m / n))
    (fun x y => some (x.euclideanDiv y))

/-- The remainder of two numbers. -/
def rem? : Value → Value → Option Value :=
  arithmetic? (fun m n => if n = 0 then Option.none else some (m % n))
    (fun x y => some (x.remainder y))

/-- A power of integers, where it fits 128 bits: the exponent is not negative and, for a base of two
    or more, below 128. -/
def integerPower? (base exponent : Int) : Option Int :=
  if exponent < 0 ∨ 4294967296 ≤ exponent then Option.none
  else if base.natAbs < 2 then
    some (if exponent = 0 then 1 else if base < 0 ∧ exponent % 2 = 0 then 1 else base)
  else if 128 ≤ exponent then Option.none
  else some (Int.pow base exponent.toNat)

/-- A power. -/
def pow? : Value → Value → Option Value :=
  arithmetic? integerPower? (fun x y => some (x.toThe y))

/-- The negated number. -/
def neg? : Value → Option Value
  | .integer n => ofInt128? (-n)
  | .decimal x => some (.decimal x.neg)
  | _ => Option.none

/-- Whether a value is among the parts of another. -/
def isIn? (v : Value) : Value → Option Bool
  | .undefined => some false
  | .text s _ => some (Text.occursIn v.chars s.toList)
  | .list items => some (items.any (same · v))
  | .map entries => some (lookup? v entries).isSome
  | .named args => some ((v.asText?.bind fun k => args.lookup k).isSome)
  | .function _ | .procedure _ _ | .space _ | .loop _ _ _ _ _ _ _ => some false
  | _ => Option.none

/-! ## Slices -/

/-- The positions of a slice that goes forward. -/
def forward (size : Nat) (start : Int) (stop : Option Int) (step : Nat) : List Nat :=
  let place (i : Int) : Nat :=
    if 0 ≤ i then i.toNat else if size < i.natAbs then size else size - i.natAbs
  let first := place start
  let last := min size ((stop.map place).getD size)
  (List.range ((last - first + step - 1) / step)).map fun i => first + i * step

/-- The positions of a slice that goes backward. -/
def backward (size : Nat) (start stop : Option Int) (step : Nat) : List Nat :=
  let place (i : Int) : Int := if i < 0 then max (-1) (size + i) else min i (size - 1)
  let first := (start.map place).getD (size - 1)
  let last := (stop.map place).getD (-1)
  (List.range (((first - last).toNat + step - 1) / step)).map fun (i : Nat) =>
    (first - (i * step : Nat)).toNat

/-- The elements of a slice. -/
def cutList? {α : Type} (items : List α) (start stop : Option Int) (step : Int) :
    Option (List α) :=
  if step = 0 then Option.none
  else
    let positions :=
      if 0 < step then forward items.length (start.getD 0) stop step.toNat
      else backward items.length start stop step.natAbs
    some (positions.filterMap fun i => items[i]?)

/-- A bound of a slice: none, or an integer. -/
def bound? : Value → Option (Option Int)
  | .none => some Option.none
  | v => v.asInt?.map some

/-- A slice of a value. -/
def slice? (v start stop step : Value) : Option Value := do
  let start ← start.bound?
  let stop ← stop.bound?
  let step := (← step.bound?).getD 1
  match v with
  | .undefined | .none => if step = 0 then Option.none else some (.list [])
  | .text s _ => (cutList? s.toList start stop step).map ofChars
  | .list items => (cutList? items start stop step).map .list
  | _ => Option.none

end Value

/-- The value of an operator on two values; `and` and `or` choose one of them. -/
def BinaryOp.result? (op : BinaryOp) (a b : Value) : Option Value :=
  match op with
  | .or => some (if a.isTrue then a else b)
  | .and => some (if a.isTrue then b else a)
  | .eq => some (.bool (Value.same a b))
  | .ne => some (.bool (!Value.same a b))
  | .lt => some (.bool (Value.order a b == .lt))
  | .le => some (.bool (Value.order a b != .gt))
  | .gt => some (.bool (Value.order a b == .gt))
  | .ge => some (.bool (Value.order a b != .lt))
  | .isIn => (a.isIn? b).map .bool
  | .add => Value.add? a b
  | .sub => Value.arithmetic? (fun m n => some (m - n)) (fun x y => some (x.minus y)) a b
  | .mul => Value.mul? a b
  | .div => Value.div? a b
  | .floorDiv => Value.floorDiv? a b
  | .rem => Value.rem? a b
  | .pow => Value.pow? a b
  | .concat => some (.ofChars (a.chars ++ b.chars))

/-- The value of an operator on one value. -/
def UnaryOp.result? (op : UnaryOp) (v : Value) : Option Value :=
  match op with
  | .not => some (.bool (!v.isTrue))
  | .neg => v.neg?

end Watchpost.Template
