import Watchpost.Number.Binary64
import Watchpost.Text.Digits

set_option autoImplicit false

/-! # What plain scalars denote

A plain scalar can denote null, a truth value, an integer or a double; any other text denotes
itself. Integers are decimal, or hexadecimal, octal or binary after `0x`, `0o` or `0b`. Several
digits of which the first is zero are no number. -/

namespace Watchpost.Yaml.Plain

/-- Whether a text denotes null. -/
def isNull (s : String) : Bool :=
  ["null", "Null", "NULL", "~"].contains s

/-- The truth value that a text denotes. -/
def bool? (s : String) : Option Bool :=
  if ["true", "True", "TRUE"].contains s then some true
  else if ["false", "False", "FALSE"].contains s then some false
  else none

/-- Whether a text starts with a sign. -/
def isSigned : List Char → Bool
  | '+' :: _ => true
  | '-' :: _ => true
  | _ => false

/-- A text without one plus sign in front. -/
def dropPlus : List Char → List Char
  | '+' :: rest => rest
  | cs => cs

/-- Whether a text is a row of digits that starts with a zero it does not need. -/
def hasLeadingZero (cs : List Char) : Bool :=
  let digits := match cs with
    | '+' :: rest => rest
    | '-' :: rest => rest
    | _ => cs
  match digits with
  | '0' :: d :: rest => (d :: rest).all Char.isDigit
  | _ => false

/-- The number that digits of a base write; `none` for no digits at all. -/
def digits? (base : Nat) (cs : List Char) : Option Nat :=
  if cs.isEmpty then none else Text.ofDigits? base cs

/-- The base that a text announces, and the digits after the announcement. -/
def based? : List Char → Option (Nat × List Char)
  | '0' :: 'x' :: rest => some (16, rest)
  | '0' :: 'o' :: rest => some (8, rest)
  | '0' :: 'b' :: rest => some (2, rest)
  | _ => none

/-- The unsigned integer below a limit that a text denotes. -/
def unsigned? (limit : Nat) (cs : List Char) : Option Nat :=
  let body := dropPlus cs
  let decimal :=
    if isSigned body || hasLeadingZero cs then none else (digits? 10 body).filter (· < limit)
  match based? body with
  | some (base, rest) =>
    if isSigned rest then none
    else ((digits? base rest).filter (· < limit)) <|> decimal
  | none => decimal

/-- The integer with a minus sign, not below a limit, that a text denotes. -/
def negative? (limit : Nat) (cs : List Char) : Option Int :=
  match cs with
  | '-' :: body =>
    let decimal :=
      if isSigned body || hasLeadingZero cs then none else (digits? 10 body).filter (· ≤ limit)
    let magnitude := match based? body with
      | some (base, rest) => ((digits? base rest).filter (· ≤ limit)) <|> decimal
      | none => decimal
    magnitude.map fun n => -(n : Int)
  | _ => none

/-- The integer of 64 bits, with or without a sign, that a text denotes. -/
def integer? (cs : List Char) : Option Int :=
  ((unsigned? (Nat.pow 2 64) cs).map Int.ofNat) <|> negative? (Nat.pow 2 63) cs

/-- Whether a text is an integer of up to 128 bits. -/
def isWideInteger (cs : List Char) : Bool :=
  (unsigned? (Nat.pow 2 128) cs).isSome || (negative? (Nat.pow 2 127) cs).isSome

/-- Read the exponent of a decimal: nothing, or `e` and digits with an optional sign. -/
def exponent? : List Char → Option Int
  | [] => some 0
  | e :: rest =>
    if e == 'e' || e == 'E' then
      match rest with
      | '-' :: ds => if ds.all Char.isDigit then (digits? 10 ds).map fun n => -(n : Int) else none
      | _ => (digits? 10 (dropPlus rest)).map Int.ofNat
    else none

/-- The finite double that a decimal with an optional sign writes. -/
def decimal? (cs : List Char) : Option Binary64 := do
  let (negative, cs) := match cs with
    | '-' :: rest => (true, rest)
    | '+' :: rest => (false, rest)
    | _ => (false, cs)
  let (whole, rest) := Text.digitsPrefix cs
  let (places, rest) := match rest with
    | '.' :: rest => Text.digitsPrefix rest
    | _ => ([], rest)
  if whole.isEmpty && places.isEmpty then none
  else do
    let exponent ← exponent? rest
    let x := Binary64.ofDecimal negative (Text.decimalValue (whole ++ places))
      (exponent - places.length)
    if x.isFinite then some x else none

/-- The double that a text denotes. -/
def double? (s : String) : Option Binary64 :=
  let cs := s.toList
  let body := dropPlus cs
  if body != cs && isSigned body then none
  else if [".inf", ".Inf", ".INF"].any (·.toList == body) then some Binary64.infinity
  else if ["-.inf", "-.Inf", "-.INF"].contains s then some Binary64.negInfinity
  else if [".nan", ".NaN", ".NAN"].contains s then some Binary64.nan
  else decimal? body

end Watchpost.Yaml.Plain
