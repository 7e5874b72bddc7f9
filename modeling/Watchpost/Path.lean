import Watchpost.Json.Compact
import Watchpost.Text.Split

set_option autoImplicit false

/-! # Dotted paths into documents

A path is a list of segments written with dots between them. `Path.resolve` follows the segments one
level each: in an object a segment is a key, in an array the decimal position of an item. A `null`
that is there is found like any other value. `Path.groupingText` is the text under which values are
grouped when they are counted; `null` and the empty string are not counted. -/

namespace Watchpost.Path

/-- The segments of a written path. -/
def segments (path : String) : List String :=
  Text.splitString '.' path

/-- The position that a segment writes. -/
def position? (segment : String) : Option Nat :=
  Text.readWord? 64 segment.toList

/-- Follow one segment. -/
def step (j : Json) (segment : String) : Option Json :=
  match j with
  | .object members => Json.findMember segment members
  | .array items => (position? segment).bind fun i => items[i]?
  | _ => none

/-- Follow a list of segments. -/
def follow (j : Json) : List String → Option Json
  | [] => some j
  | segment :: rest => (step j segment).bind fun next => follow next rest

/-- The value that a written path leads to. -/
def resolve (document : Json) (path : String) : Option Json :=
  follow document (segments path)

/-- The text by which a value is grouped: a string itself, any other value its compact text. -/
def groupingText : Json → Option String
  | .null => none
  | .string s => if s.isEmpty then none else some s
  | j => some j.compact

/-- The grouping text of the value that a path leads to. -/
def groupingTextAt (document : Json) (path : String) : Option String :=
  (resolve document path).bind groupingText

end Watchpost.Path
