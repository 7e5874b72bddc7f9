set_option autoImplicit false

/-! # Splitting and joining texts

`split` cuts a text at every occurrence of one character, so that a text without it is a single
part; `join` puts the parts together again. -/

namespace Watchpost.Text

/-- The parts of a text between the occurrences of a character. -/
def split (mark : Char) : List Char → List (List Char)
  | [] => [[]]
  | c :: rest =>
    if c = mark then [] :: split mark rest
    else
      match split mark rest with
      | [] => [[c]]
      | part :: parts => (c :: part) :: parts

/-- Parts with a text between each two. -/
def join (between : List Char) : List (List Char) → List Char
  | [] => []
  | [part] => part
  | part :: next :: rest => part ++ between ++ join between (next :: rest)

/-- The parts of a text between the occurrences of a character. -/
def splitString (mark : Char) (s : String) : List String :=
  (split mark s.toList).map String.ofList

/-- Whether one text starts with another. -/
def startsWith (start text : List Char) : Bool :=
  start.isPrefixOf text

/-- What follows `start` at the beginning of a text. -/
def after? (start text : List Char) : Option (List Char) :=
  if start.isPrefixOf text then some (text.drop start.length) else none

/-- Split a text at the first occurrence of another: what stands before and after it. -/
def splitAtFirst (needle : List Char) : List Char → Option (List Char × List Char)
  | [] => if needle.isEmpty then some ([], []) else none
  | c :: rest =>
    match after? needle (c :: rest) with
    | some tail => some ([], tail)
    | none => (splitAtFirst needle rest).map fun (before, tail) => (c :: before, tail)

/-- Whether one text occurs in another. -/
def occursIn (needle text : List Char) : Bool :=
  (splitAtFirst needle text).isSome

end Watchpost.Text
