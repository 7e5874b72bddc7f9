set_option autoImplicit false

/-! # Digits

Reading unsigned numbers from decimal and other digits, and writing numbers with a fixed least
width. A reader takes a whole text; `digitsPrefix` takes as many digits as there are. -/

namespace Watchpost.Text

/-- The value of a digit in a base up to 36, letters of either case counting from ten. -/
def digitValue? (base : Nat) (c : Char) : Option Nat :=
  let v :=
    if c.isDigit then some (c.toNat - '0'.toNat)
    else if 'a' ≤ c ∧ c ≤ 'z' then some (c.toNat - 'a'.toNat + 10)
    else if 'A' ≤ c ∧ c ≤ 'Z' then some (c.toNat - 'A'.toNat + 10)
    else none
  v.filter (· < base)

/-- The number that a list of digits writes in a base; `none` when one of them is no digit. -/
def ofDigits? (base : Nat) (cs : List Char) : Option Nat :=
  cs.foldl (fun acc c => do return (← acc) * base + (← digitValue? base c)) (some 0)

/-- The number that a list of decimal digits writes, other characters counting as zero. -/
def decimalValue (cs : List Char) : Nat :=
  cs.foldl (fun n c => n * 10 + (c.toNat - '0'.toNat)) 0

/-- Read a whole text as decimal digits, at least one, after an optional plus sign. -/
def readUnsigned? (cs : List Char) : Option Nat :=
  let digits := match cs with
    | '+' :: rest => rest
    | _ => cs
  if digits.isEmpty then none else ofDigits? 10 digits

/-- Read a whole text as an unsigned number of the given bit width. -/
def readWord? (width : Nat) (cs : List Char) : Option Nat :=
  (readUnsigned? cs).filter (· < Nat.pow 2 width)

/-- Split off the longest run of decimal digits at the start of a text. -/
def digitsPrefix (cs : List Char) : List Char × List Char :=
  (cs.takeWhile Char.isDigit, cs.dropWhile Char.isDigit)

/-- The decimal digits of a number. -/
def decimal (n : Nat) : List Char :=
  n.repr.toList

/-- Fill a text on the left up to a width. -/
def padLeft (width : Nat) (fill : Char) (cs : List Char) : List Char :=
  List.replicate (width - cs.length) fill ++ cs

/-- The decimal digits of a number, filled with zeros up to a width. -/
def paddedDecimal (width n : Nat) : List Char :=
  padLeft width '0' (decimal n)

/-- The lower-case hexadecimal digits of a number, filled with zeros up to a width. -/
def paddedHex (width n : Nat) : List Char :=
  padLeft width '0' (Nat.toDigits 16 n)

/-- The text of an integer: a minus sign where it is negative, then its decimal digits. -/
def signedDecimal (n : Int) : List Char :=
  match n with
  | .ofNat k => decimal k
  | .negSucc k => '-' :: decimal (k + 1)

end Watchpost.Text
