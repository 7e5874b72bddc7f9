import Watchpost.Text.Digits

set_option autoImplicit false

/-! # Percent-encoding

A byte of the UTF-8 form of a text may be written as a percent sign and two hexadecimal digits.
`encode` writes the characters of a set so; `decode` gives back the bytes of a text. -/

namespace Watchpost.Url

/-- A set of characters that have to be encoded. -/
abbrev CharSet := Char → Bool

/-- Control characters and everything outside ASCII. -/
def controlSet : CharSet := fun c => c.toNat < 0x20 || 0x7E < c.toNat

/-- What is encoded in a fragment. -/
def fragmentSet : CharSet := fun c => controlSet c || " \"<>\x60".toList.contains c

/-- What is encoded in a path. -/
def pathSet : CharSet := fun c => fragmentSet c || "#?\x7b\x7d".toList.contains c

/-- What is encoded in a user name or a password. -/
def userSet : CharSet := fun c => pathSet c || "/:;=@[\\]^|".toList.contains c

/-- What is encoded in a query. -/
def querySet (special : Bool) : CharSet := fun c =>
  controlSet c || " \"#<>".toList.contains c || (special && c == '\'')

/-- A byte as a percent sign and two digits. -/
def encodeByte (b : UInt8) : List Char :=
  '%' :: (Text.paddedHex 2 b.toNat).map Char.toUpper

/-- A text with the characters of a set encoded. -/
def encode (set : CharSet) (cs : List Char) : List Char :=
  cs.flatMap fun c =>
    if set c then (String.singleton c).toUTF8.toList.flatMap encodeByte else [c]

/-- The bytes of a text with its encoded ones decoded. -/
def decode : List Char → List UInt8
  | '%' :: a :: b :: rest =>
    match Text.ofDigits? 16 [a, b] with
    | some n => UInt8.ofNat n :: decode rest
    | none => '%'.toUInt8 :: decode (a :: b :: rest)
  | c :: rest => (String.singleton c).toUTF8.toList ++ decode rest
  | [] => []

/-- The text of a text with its encoded bytes decoded; `none` if they are no UTF-8. -/
def decodeText? (cs : List Char) : Option String :=
  String.fromUTF8? ⟨(decode cs).toArray⟩

end Watchpost.Url
