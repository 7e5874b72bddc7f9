import Watchpost.Number.Binary64
import Watchpost.Text.Digits

set_option autoImplicit false

/-! # Numbers as text

`Binary64.shortest` picks the digits of a double: the fewest that read back as the same double and
of those the nearest. A `Layout` says how digits are set out: up to which exponents they are
written positionally, whether a whole number keeps its `.0`, and how an exponent is marked. -/

namespace Watchpost

/-! ## The shortest digits -/

/-- The number `significand * 10 ^ exponent`. -/
structure Decimal where
  significand : Nat
  exponent : Int
deriving DecidableEq, Repr

namespace Decimal

/-- Whether a decimal reads as the magnitude of a double. -/
def reads (d : Decimal) (x : Binary64) : Bool :=
  decide (Binary64.ofDecimal x.isNegative d.significand d.exponent = x)

/-- The same number without zeros at the end of the significand. -/
def stripZeros : Nat → Decimal → Decimal
  | 0, d => d
  | fuel + 1, d =>
    if d.significand ≠ 0 ∧ d.significand % 10 = 0 then
      stripZeros fuel ⟨d.significand / 10, d.exponent + 1⟩
    else d

end Decimal

namespace Binary64

/-- The magnitude of a finite double, written out in full: every unit is `5 ^ 1074 / 10 ^ 1074`. -/
def exactDecimal (x : Binary64) : Decimal :=
  ⟨x.units * Nat.pow 5 1074, -1074⟩

/-- The two neighbours of a decimal that keep `count` of its digits, the nearer one first. -/
def neighbours (d : Decimal) (length count : Nat) : List Decimal :=
  let cut := length - count
  let low := d.significand / Nat.pow 10 cut
  let rest := d.significand % Nat.pow 10 cut
  let exponent := d.exponent + cut
  if 2 * rest ≤ Nat.pow 10 cut then [⟨low, exponent⟩, ⟨low + 1, exponent⟩]
  else [⟨low + 1, exponent⟩, ⟨low, exponent⟩]

/-- The decimal with the fewest digits that reads as `x`, and of those the nearest to it. Seventeen
    digits always suffice; the exact decimal stands in for an answer beyond them. -/
def shortest (x : Binary64) : Decimal :=
  let exact := x.exactDecimal
  let length := exact.significand.repr.length
  let candidates := (List.range 17).flatMap fun n => neighbours exact length (n + 1)
  Decimal.stripZeros 400 ((candidates.find? (·.reads x)).getD exact)

end Binary64

/-! ## Setting digits out -/

/-- How the digits of a number are set out. -/
structure Layout where
  /-- The smallest decimal exponent that is written positionally. -/
  lowest : Int
  /-- The largest decimal exponent that is written positionally. -/
  highest : Int
  /-- Whether a whole number written positionally ends in `.0`. -/
  keepsPoint : Bool
  /-- Whether a positive exponent has a plus sign. -/
  marksPlus : Bool

namespace Layout

/-- Numbers in JSON text: `1.0`, `0.00001`, `1e-7`, `1e+16`. -/
def json : Layout := ⟨-5, 15, true, true⟩

/-- Numbers in log fields: `600.0`, `0.0001`, `1e-5`, `1e300`. -/
def logField : Layout := ⟨-4, 15, true, false⟩

/-- Numbers in running text: positional, however long, and whole ones without a point. -/
def plain : Layout := ⟨-2000, 2000, false, false⟩

/-- Numbers that a template prints: positional, however long, with a point. -/
def pointed : Layout := ⟨-2000, 2000, true, false⟩

/-- Set out the digits `ds` of a number whose first digit stands for `10 ^ exponent`. -/
def positional (layout : Layout) (ds : List Char) (exponent : Int) : List Char :=
  if exponent < 0 then
    ['0', '.'] ++ List.replicate (exponent.natAbs - 1) '0' ++ ds
  else
    let whole := exponent.natAbs + 1
    if ds.length ≤ whole then
      ds ++ List.replicate (whole - ds.length) '0' ++ (if layout.keepsPoint then ['.', '0'] else [])
    else ds.take whole ++ '.' :: ds.drop whole

/-- Set out digits with an exponent. -/
def scientific (layout : Layout) (ds : List Char) (exponent : Int) : List Char :=
  let mantissa := match ds with
    | [] => []
    | [d] => [d]
    | d :: rest => d :: '.' :: rest
  let mark := if exponent < 0 then ['-'] else if layout.marksPlus then ['+'] else []
  mantissa ++ 'e' :: mark ++ Text.decimal exponent.natAbs

/-- The text of a finite double. -/
def format (layout : Layout) (x : Binary64) : List Char :=
  let magnitude :=
    if x.units = 0 then
      if layout.keepsPoint then ['0', '.', '0'] else ['0']
    else
      let d := x.shortest
      let ds := Text.decimal d.significand
      let exponent : Int := d.exponent + ds.length - 1
      if layout.lowest ≤ exponent ∧ exponent ≤ layout.highest then layout.positional ds exponent
      else layout.scientific ds exponent
  if x.isNegative then '-' :: magnitude else magnitude

/-- The text of any double, with the given spellings of an infinity and a NaN. -/
def formatAny (layout : Layout) (infinity nan : String) (x : Binary64) : String :=
  if x.isNaN then nan
  else if !x.isFinite then if x.isNegative then "-" ++ infinity else infinity
  else String.ofList (layout.format x)

end Layout

end Watchpost
