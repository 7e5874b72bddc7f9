import Watchpost.Text.Case
import Watchpost.Text.Split
import Watchpost.Url.Percent
import Watchpost.Url.Punycode

set_option autoImplicit false

/-! # Hosts

The host of a URL is a name, an address of four bytes or an address of eight units of 16 bits in
brackets. Names are brought to ASCII and to small letters; addresses to their shortest form. -/

namespace Watchpost.Url

/-! ## Addresses of four bytes -/

/-- A number in an address: decimal, octal behind a zero, hexadecimal behind `0x`. -/
def addressNumber? (cs : List Char) : Option Nat :=
  match cs with
  | [] => none
  | '0' :: 'x' :: ds | '0' :: 'X' :: ds => Text.ofDigits? 16 ds
  | '0' :: d :: ds => Text.ofDigits? 8 (d :: ds)
  | ds => Text.ofDigits? 10 ds

/-- The labels of a name, without an empty one at the end. -/
def labels (name : List Char) : List (List Char) :=
  let parts := Text.split '.' name
  if 1 < parts.length && parts.getLast? == some [] then parts.dropLast else parts

/-- Whether the last label of a name is a number, so that the name has to be an address. -/
def endsInNumber (name : List Char) : Bool :=
  match (labels name).getLast? with
  | none => false
  | some last =>
    (!last.isEmpty && last.all Char.isDigit) ||
      (match last with
        | '0' :: x :: ds => (x == 'x' || x == 'X') && ds.all fun d => (Text.digitValue? 16 d).isSome
        | _ => false)

/-- The address that numbers write, the last of them filling the bytes that are left. -/
def addressOf? (numbers : List Nat) : Option Nat :=
  match numbers.reverse with
  | [] => none
  | last :: rest =>
    if 3 < rest.length || rest.any (255 < ·) || Nat.pow 256 (4 - rest.length) ≤ last then none
    else
      let high := rest.reverse.zipIdx.foldl (fun sum (n, i) => sum + n * Nat.pow 256 (3 - i)) 0
      some (high + last)

/-- The text of an address of four bytes. -/
def addressText (n : Nat) : List Char :=
  Text.join ['.'] ([3, 2, 1, 0].map fun i => Text.decimal (n / Nat.pow 256 i % 256))

/-- Read an address of four bytes. -/
def address? (name : List Char) : Option Nat := do
  addressOf? (← (labels name).mapM addressNumber?)

/-! ## Addresses of eight units -/

/-- Read four decimal bytes without needless zeros as two units. -/
def strictAddress? (cs : List Char) : Option (List Nat) := do
  let bytes ← (Text.split '.' cs).mapM fun part =>
    if part.isEmpty || 3 < part.length || (1 < part.length && part.head? == some '0') then none
    else (Text.ofDigits? 10 part).filter (· < 256)
  match bytes with
  | [a, b, c, d] => some [a * 256 + b, c * 256 + d]
  | _ => none

/-- Read units between colons; the last two may be written as four bytes. -/
def units? (mayEndInBytes : Bool) (cs : List Char) : Option (List Nat) :=
  if cs.isEmpty then some []
  else
    let parts := Text.split ':' cs
    let last := parts.getLast?.getD []
    let unit? (part : List Char) : Option Nat :=
      if part.isEmpty || 4 < part.length then none else Text.ofDigits? 16 part
    if mayEndInBytes && last.contains '.' then do
      return (← parts.dropLast.mapM unit?) ++ (← strictAddress? last)
    else parts.mapM unit?

/-- Read an address of eight units; one doubled colon stands for zeros. -/
def longAddress? (cs : List Char) : Option (List Nat) :=
  match Text.splitAtFirst [':', ':'] cs with
  | none => (units? true cs).filter (·.length == 8)
  | some (before, after) => do
    let front ← units? false before
    let back ← units? true after
    if front.length + back.length < 8 then
      some (front ++ List.replicate (8 - front.length - back.length) 0 ++ back)
    else none

/-- The length of the run of zeros at the start of a list. -/
def zeroRun (units : List Nat) : Nat :=
  (units.takeWhile (· == 0)).length

/-- Where the first of the longest runs of zeros starts, and its length. -/
def longestZeros (units : List Nat) : Nat × Nat :=
  (List.range units.length).foldl (fun (start, length) i =>
    let run := zeroRun (units.drop i)
    if length < run then (i, run) else (start, length)) (0, 0)

/-- The text of an address of eight units. -/
def longAddressText (units : List Nat) : List Char :=
  let hex (us : List Nat) : List Char := Text.join [':'] (us.map (Nat.toDigits 16))
  let (start, length) := longestZeros units
  if length < 2 then hex units
  else hex (units.take start) ++ ':' :: ':' :: hex (units.drop (start + length))

/-! ## Names -/

/-- A character as names have it: nothing for the invisible ones, a point for the points of other
    scripts, and an ASCII character for its wide form. -/
def foldChar (c : Char) : List Char :=
  let n := c.toNat
  if n == 0xAD || n == 0x200B || n == 0x2060 || n == 0xFEFF then []
  else if n == 0x3002 || n == 0xFF0E || n == 0xFF61 then ['.']
  else if 0xFF01 ≤ n && n ≤ 0xFF5E then [(Char.ofNat (n - 0xFEE0)).toLower]
  else [c]

/-- A label in ASCII. -/
def asciiLabel (label : List Char) : List Char :=
  if label.all fun c => c.toNat < 128 then label
  else "xn--".toList ++ Punycode.encode label

/-- A name in ASCII and small letters. -/
def asciiName (name : String) : List Char :=
  let folded := Text.lower (String.ofList (name.toList.flatMap foldChar))
  Text.join ['.'] ((Text.split '.' folded.toList).map asciiLabel)

/-- Characters that no host may have. -/
def forbidden : CharSet := fun c =>
  c.toNat == 0 || "\t\n\r #/:<>?@[\\]^|".toList.contains c

/-- Characters that no name may have. -/
def forbiddenInName : CharSet := fun c =>
  forbidden c || c.toNat ≤ 0x1F || c == '%' || c.toNat == 0x7F

/-- Read a host; `special` if the scheme is one of those of the web. -/
def host? (special : Bool) (cs : List Char) : Option (List Char) :=
  match cs with
  | '[' :: rest =>
    if rest.getLast? == some ']' then
      (longAddress? rest.dropLast).map fun units => '[' :: longAddressText units ++ [']']
    else none
  | _ =>
    if !special then
      if cs.isEmpty || cs.any forbidden then none else some (encode controlSet cs)
    else do
      let name := asciiName (← decodeText? cs)
      if name.isEmpty || name.any forbiddenInName then none
      else if endsInNumber name then (address? name).map addressText
      else some name

end Watchpost.Url
