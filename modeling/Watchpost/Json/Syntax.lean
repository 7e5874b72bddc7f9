import Watchpost.Json.Basic
import Watchpost.Text.Digits

set_option autoImplicit false

/-! # JSON text

`Syntax.read?` reads a JSON text into its syntax tree, in which the members of an object stand as
written. A text can be well-formed and yet hold a number beyond the doubles or a string with half a
surrogate pair: such a leaf is `none` in the tree, so that it is harmless where nobody looks at it.
`Syntax.value?` turns a tree into a value; it refuses those leaves, and containers nested more than
`maxDepth` deep.

JSON is read as its library does with the default features: `preserve_order`, `arbitrary_precision`,
`float_roundtrip`, `unbounded_depth` and `raw_value` are off. So members come in the order of their
keys, numbers are integers of 64 bits or doubles that are scaled without a last correction, and the
private key by which `raw_value` marks a text that is passed on unread is a key like any other. -/

namespace Watchpost.Json

/-- The syntax tree of a JSON text. -/
inductive Syntax where
  | null
  | bool (b : Bool)
  | number (n : Option Number)
  | string (s : Option String)
  | array (items : List Syntax)
  | object (members : List (Option String × Syntax))
deriving Inhabited, Repr

/-- The deepest nesting of containers that a text may have. -/
def maxDepth : Nat := 127

/-! ## Numbers

Digits are gathered into a significand of at most 64 bits; further digits only count. The double is
the nearest to the significand, scaled by the double nearest to a power of ten, both steps rounded.
-/

/-- The digits of a number gathered so far: `significand * 10 ^ exponent`. -/
structure Gathered where
  significand : Nat
  exponent : Int
  full : Bool

namespace Gathered

/-- Gather one digit of the whole part. -/
def whole (g : Gathered) (digit : Nat) : Gathered :=
  let next := g.significand * 10 + digit
  if g.full || decide (Nat.pow 2 64 ≤ next) then { g with exponent := g.exponent + 1, full := true }
  else { g with significand := next }

/-- Gather one digit after the point. Once a digit did not fit, those after it are passed over. -/
def fractional (g : Gathered) (digit : Nat) : Gathered :=
  let next := g.significand * 10 + digit
  if g.full || decide (Nat.pow 2 64 ≤ next) then { g with full := true }
  else { g with significand := next, exponent := g.exponent - 1 }

/-- Scale a double by a power of ten, at most `10 ^ 308` at a time. -/
def scale : Nat → Binary64 → Int → Option Binary64
  | 0, _, _ => none
  | fuel + 1, x, exponent =>
    if exponent.natAbs ≤ 308 then
      let power := Binary64.ofNat (Nat.pow 10 exponent.natAbs)
      if exponent < 0 then some (x.div power)
      else
        let y := x.mul power
        if y.isFinite then some y else none
    else if x.units = 0 then some x
    else if 0 ≤ exponent then none
    else scale fuel (x.div (Binary64.ofNat (Nat.pow 10 308))) (exponent + 308)

/-- The double that gathered digits denote; `none` when it is too large. -/
def toDouble? (g : Gathered) : Option Binary64 :=
  if g.significand = 0 then some Binary64.zero
  else if g.exponent < -1000 then some Binary64.zero
  else scale 5 (Binary64.ofNat g.significand) g.exponent

end Gathered

/-- The digit value of a character that is a digit. -/
def digitOf (c : Char) : Nat := c.toNat - '0'.toNat

/-- The double with a sign that gathered digits denote, as a number. -/
def signedDouble (negative : Bool) (g : Gathered) : Option Number := do
  let x ← g.toDouble?
  Number.ofDouble? (if negative then x.neg else x)

/-- Read the exponent of a number after its `e`: its value and the rest. -/
def readExponent (cs : List Char) : Option (Int × List Char) :=
  let (negative, cs) := match cs with
    | '+' :: rest => (false, rest)
    | '-' :: rest => (true, rest)
    | _ => (false, cs)
  let (digits, rest) := Text.digitsPrefix cs
  if digits.isEmpty then none
  else
    let magnitude : Int := Text.decimalValue digits
    some (if negative then -magnitude else magnitude, rest)

/-- Finish a number that has a fraction or an exponent. -/
def readScaled (negative : Bool) (g : Gathered) (cs : List Char) :
    Option (Option Number × List Char) :=
  match cs with
  | 'e' :: rest | 'E' :: rest => do
    let (exponent, rest) ← readExponent rest
    some (signedDouble negative { g with exponent := g.exponent + exponent }, rest)
  | _ => some (signedDouble negative g, cs)

/-- Read the digits of a number and what follows them. -/
def readMagnitude (negative : Bool) (cs : List Char) : Option (Option Number × List Char) := do
  let (digits, rest) := Text.digitsPrefix cs
  match digits with
  | [] => none
  | '0' :: _ :: _ => none
  | _ =>
    let g := digits.foldl (fun g c => g.whole (digitOf c)) ⟨0, 0, false⟩
    match rest with
    | '.' :: rest =>
      let (places, rest) := Text.digitsPrefix rest
      if places.isEmpty then none
      else readScaled negative (places.foldl (fun g c => g.fractional (digitOf c)) g) rest
    | 'e' :: _ | 'E' :: _ => readScaled negative g rest
    | _ =>
      if g.full then some (signedDouble negative g, rest)
      else if negative && (g.significand == 0 || decide (Nat.pow 2 63 < g.significand)) then
        some (signedDouble true g, rest)
      else
        let n : Int := g.significand
        some (Number.ofInt? (if negative then -n else n), rest)

/-- Read a number. -/
def readNumber (cs : List Char) : Option (Option Number × List Char) :=
  match cs with
  | '-' :: rest => readMagnitude true rest
  | _ => readMagnitude false cs

/-! ## Strings

A string is read in two steps: into pieces, each a character or a 16-bit unit written as an escape,
and from pieces into characters, where two units can make up one character. -/

/-- A part of a string literal: a character, or a unit written with four hexadecimal digits. -/
inductive Piece where
  | char (c : Char)
  | unit (n : Nat)
deriving DecidableEq, Repr

/-- The character that a one-letter escape stands for. -/
def shortEscape? : Char → Option Char
  | '"' => some '"'
  | '\\' => some '\\'
  | '/' => some '/'
  | 'b' => some '\x08'
  | 'f' => some '\x0c'
  | 'n' => some '\n'
  | 'r' => some '\r'
  | 't' => some '\t'
  | _ => none

/-- Put a piece in front of those that follow it. -/
def consPiece (p : Piece) (r : List Piece × List Char) : List Piece × List Char :=
  (p :: r.1, r.2)

/-- Read the pieces of a string after its opening quote, up to its closing quote. -/
def readPieces : List Char → Option (List Piece × List Char)
  | [] => none
  | '"' :: rest => some ([], rest)
  | '\\' :: 'u' :: a :: b :: c :: d :: rest =>
    match Text.ofDigits? 16 [a, b, c, d] with
    | some n => (readPieces rest).map (consPiece (.unit n))
    | none => none
  | '\\' :: e :: rest =>
    match shortEscape? e with
    | some c => (readPieces rest).map (consPiece (.char c))
    | none => none
  | c :: rest =>
    if c.toNat < 0x20 ∨ c = '\\' then none else (readPieces rest).map (consPiece (.char c))

/-- A unit in the upper half of a surrogate pair. -/
def isHighHalf (n : Nat) : Bool := decide (0xD800 ≤ n) && decide (n < 0xDC00)

/-- A unit in the lower half of a surrogate pair. -/
def isLowHalf (n : Nat) : Bool := decide (0xDC00 ≤ n) && decide (n < 0xE000)

/-- The characters that pieces stand for; `none` when half a surrogate pair stands alone. -/
def joinPieces : List Piece → Option (List Char)
  | [] => some []
  | .char c :: rest => (joinPieces rest).map (c :: ·)
  | .unit hi :: .unit lo :: rest =>
    if isHighHalf hi then
      if isLowHalf lo then
        (joinPieces rest).map (Char.ofNat (0x10000 + (hi - 0xD800) * 0x400 + (lo - 0xDC00)) :: ·)
      else none
    else if isLowHalf hi then none
    else (joinPieces (.unit lo :: rest)).map (Char.ofNat hi :: ·)
  | .unit n :: rest =>
    if isHighHalf n || isLowHalf n then none else (joinPieces rest).map (Char.ofNat n :: ·)

/-- Read a string after its opening quote. The outer `none` is a malformed string; an inner one
    stands for a string in which half a surrogate pair stands alone. -/
def readString (cs : List Char) : Option (Option (List Char) × List Char) :=
  (readPieces cs).map fun (pieces, rest) => (joinPieces pieces, rest)

/-! ## Values -/

/-- Whether a character is blank in JSON text. -/
def isSpace (c : Char) : Bool :=
  c == ' ' || c == '\n' || c == '\t' || c == '\r'

/-- Drop the blanks in front. -/
def skipSpace (cs : List Char) : List Char :=
  cs.dropWhile isSpace

mutual

/-- Read one value. The fuel bounds the steps; a text needs at most two for each character. -/
def readValue : Nat → List Char → Option (Syntax × List Char)
  | 0, _ => none
  | fuel + 1, cs =>
    match skipSpace cs with
    | 'n' :: 'u' :: 'l' :: 'l' :: rest => some (.null, rest)
    | 't' :: 'r' :: 'u' :: 'e' :: rest => some (.bool true, rest)
    | 'f' :: 'a' :: 'l' :: 's' :: 'e' :: rest => some (.bool false, rest)
    | '"' :: rest => (readString rest).map fun (s, rest) => (.string (s.map String.ofList), rest)
    | '[' :: rest =>
      match skipSpace rest with
      | ']' :: rest => some (.array [], rest)
      | rest => (readItems fuel rest).map fun (items, rest) => (.array items, rest)
    | '{' :: rest =>
      match skipSpace rest with
      | '}' :: rest => some (.object [], rest)
      | rest => (readMembers fuel rest).map fun (members, rest) => (.object members, rest)
    | rest => (readNumber rest).map fun (n, rest) => (.number n, rest)

/-- Read the items of an array up to its closing bracket, at least one. -/
def readItems : Nat → List Char → Option (List Syntax × List Char)
  | 0, _ => none
  | fuel + 1, cs => do
    let (item, rest) ← readValue fuel cs
    match skipSpace rest with
    | ',' :: rest => do
      let (items, rest) ← readItems fuel rest
      some (item :: items, rest)
    | ']' :: rest => some ([item], rest)
    | _ => none

/-- Read the members of an object up to its closing brace, at least one. -/
def readMembers : Nat → List Char → Option (List (Option String × Syntax) × List Char)
  | 0, _ => none
  | fuel + 1, cs =>
    match skipSpace cs with
    | '"' :: rest => do
      let (key, rest) ← readString rest
      match skipSpace rest with
      | ':' :: rest => do
        let (value, rest) ← readValue fuel rest
        let member := (key.map String.ofList, value)
        match skipSpace rest with
        | ',' :: rest => do
          let (members, rest) ← readMembers fuel rest
          some (member :: members, rest)
        | '}' :: rest => some ([member], rest)
        | _ => none
      | _ => none
    | _ => none

end

/-- Read a whole text as one JSON value with nothing but blanks around it. -/
def Syntax.read? (text : String) : Option Syntax := do
  let cs := text.toList
  let (tree, rest) ← readValue (2 * cs.length + 2) cs
  if (skipSpace rest).isEmpty then some tree else none

/-! ## From trees to values and back -/

namespace Syntax

mutual

/-- The value of a tree, whose containers may nest `depth` deep. -/
def valueWithin : Nat → Syntax → Option Json
  | _, .null => some .null
  | _, .bool b => some (.bool b)
  | _, .number n => n.map .number
  | _, .string s => s.map .string
  | 0, .array _ => none
  | depth + 1, .array items => (itemsWithin depth items).map .array
  | 0, .object _ => none
  | depth + 1, .object members => (membersWithin depth members).map ofMembers

/-- The values of a list of trees. -/
def itemsWithin : Nat → List Syntax → Option (List Json)
  | _, [] => some []
  | depth, item :: rest => do
    return (← valueWithin depth item) :: (← itemsWithin depth rest)

/-- The members of an object, in the order written. -/
def membersWithin : Nat → List (Option String × Syntax) → Option (List (String × Json))
  | _, [] => some []
  | depth, (key, value) :: rest => do
    return (← key, ← valueWithin depth value) :: (← membersWithin depth rest)

end

/-- The value of a tree. -/
def value? (tree : Syntax) : Option Json :=
  tree.valueWithin maxDepth

mutual

/-- How deep the containers of a tree nest. -/
def nesting : Syntax → Nat
  | .array items => nestingOfItems items + 1
  | .object members => nestingOfMembers members + 1
  | _ => 0

/-- How deep the containers in a list of trees nest. -/
def nestingOfItems : List Syntax → Nat
  | [] => 0
  | item :: rest => max (nesting item) (nestingOfItems rest)

/-- How deep the containers in the members of an object nest. -/
def nestingOfMembers : List (Option String × Syntax) → Nat
  | [] => 0
  | (_, value) :: rest => max (nesting value) (nestingOfMembers rest)

end

end Syntax

mutual

/-- The tree of a value. -/
def toSyntax : Json → Syntax
  | .null => .null
  | .bool b => .bool b
  | .number n => .number (some n)
  | .string s => .string (some s)
  | .array items => .array (itemsToSyntax items)
  | .object members => .object (membersToSyntax members)

/-- The trees of a list of values. -/
def itemsToSyntax : List Json → List Syntax
  | [] => []
  | item :: rest => toSyntax item :: itemsToSyntax rest

/-- The members of an object as trees. -/
def membersToSyntax : List (String × Json) → List (Option String × Syntax)
  | [] => []
  | (key, value) :: rest => (some key, toSyntax value) :: membersToSyntax rest

end

/-- Read a whole text as a JSON value. -/
def read? (text : String) : Option Json :=
  (Syntax.read? text).bind Syntax.value?

end Watchpost.Json
