import Watchpost.Json.Basic
import Watchpost.Number.Layout

set_option autoImplicit false

/-! # Compact JSON text

`Json.compact` writes a value without blanks, members in the order of the object. Strings are
written by `quoted`: quotes, backslashes and control characters are escaped, all other characters
stand for themselves. -/

namespace Watchpost.Json

/-- The text of a number: digits for an integer, the fewest that read back for a double. -/
def Number.text : Number → List Char
  | .integer n _ => Text.signedDecimal n
  | .double x _ => Layout.json.format x

/-- How one character is written inside a string. -/
def escapeChar (c : Char) : List Char :=
  match c with
  | '"' => ['\\', '"']
  | '\\' => ['\\', '\\']
  | '\x08' => ['\\', 'b']
  | '\x0c' => ['\\', 'f']
  | '\n' => ['\\', 'n']
  | '\r' => ['\\', 'r']
  | '\t' => ['\\', 't']
  | _ => if c.toNat < 0x20 then '\\' :: 'u' :: Text.paddedHex 4 c.toNat else [c]

/-- The inside of a string literal. -/
def escape (cs : List Char) : List Char :=
  cs.flatMap escapeChar

/-- A string literal. -/
def quoted (s : String) : List Char :=
  '"' :: escape s.toList ++ ['"']

mutual

/-- The compact text of a value. -/
def chars : Json → List Char
  | .null => ['n', 'u', 'l', 'l']
  | .bool true => ['t', 'r', 'u', 'e']
  | .bool false => ['f', 'a', 'l', 's', 'e']
  | .number n => n.text
  | .string s => quoted s
  | .array items => '[' :: itemChars items ++ [']']
  | .object members => '{' :: memberChars members ++ ['}']

/-- The items of an array, with commas between them. -/
def itemChars : List Json → List Char
  | [] => []
  | [item] => chars item
  | item :: next :: rest => chars item ++ ',' :: itemChars (next :: rest)

/-- The members of an object, with commas between them. -/
def memberChars : List (String × Json) → List Char
  | [] => []
  | [(key, value)] => quoted key ++ ':' :: chars value
  | (key, value) :: next :: rest =>
    quoted key ++ ':' :: chars value ++ ',' :: memberChars (next :: rest)

end

/-- The compact text of a value. -/
def compact (j : Json) : String :=
  String.ofList j.chars

end Watchpost.Json
