import Watchpost.Text.Digits

set_option autoImplicit false

/-! # Alert identifiers

An identifier is a number of 128 bits, written as 32 hexadecimal digits in groups of 8, 4, 4, 4
and 12. It is read from that form, bare, in braces or after `urn:uuid:`, and from the digits
alone. -/

namespace Watchpost

/-- An identifier of 128 bits. -/
structure Uuid where
  value : Nat
deriving DecidableEq, Repr, Inhabited

namespace Uuid

/-- The lengths of the groups of digits. -/
def groups : List Nat := [8, 4, 4, 4, 12]

/-- Take the hyphens out of digits written in groups. -/
def ungroup (cs : List Char) : List Nat → Option (List Char)
  | [] => if cs.isEmpty then some [] else none
  | [n] => if cs.length = n then some cs else none
  | n :: rest =>
    match cs.drop n with
    | '-' :: tail => (ungroup tail rest).map (cs.take n ++ ·)
    | _ => none

/-- Put hyphens between groups of digits. -/
def group (cs : List Char) : List Nat → List Char
  | [] => cs
  | [_] => cs
  | n :: rest => cs.take n ++ '-' :: group (cs.drop n) rest

/-- Read 32 hexadecimal digits. -/
def ofHex? (cs : List Char) : Option Uuid :=
  if cs.length = 32 then (Text.ofDigits? 16 cs).map (⟨·⟩) else none

/-- Read an identifier from any of its written forms. -/
def read? (text : String) : Option Uuid :=
  let cs := text.toList
  if cs.length = 32 then ofHex? cs
  else if cs.length = 36 then (ungroup cs groups).bind ofHex?
  else if cs.length = 38 ∧ cs.head? = some '\x7b' ∧ cs.getLast? = some '\x7d' then
    (ungroup (cs.tail.take 36) groups).bind ofHex?
  else if cs.length = 45 ∧ cs.take 9 = "urn:uuid:".toList then
    (ungroup (cs.drop 9) groups).bind ofHex?
  else none

/-- The identifier of a random number. A group of four bits tells that it is random, and two bits
    that it is one of this kind. -/
def ofRandom (n : Nat) : Uuid :=
  let low := n % Nat.pow 2 62
  let middle := n / Nat.pow 2 64 % Nat.pow 2 12
  let high := n / Nat.pow 2 80 % Nat.pow 2 48
  ⟨high * Nat.pow 2 80 + 4 * Nat.pow 2 76 + middle * Nat.pow 2 64 + 2 * Nat.pow 2 62 + low⟩

/-- The written form: lower-case digits in groups. -/
def text (u : Uuid) : String :=
  String.ofList (group (Text.paddedHex 32 u.value) groups)

end Uuid

end Watchpost
