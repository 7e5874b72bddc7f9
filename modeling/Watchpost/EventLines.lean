import Watchpost.Event
import Watchpost.Text.Blank

set_option autoImplicit false

/-! # Events in lines

Events arrive as lines of JSON. A blank line is passed over; a line that is no event is reported
with its number and costs nothing but itself; a line that is no UTF-8 cannot be read, and has no
number. -/

namespace Watchpost

/-- Why there is no event. -/
inductive EventLines.Error where
  | malformed (line : Nat)
  | unreadable
deriving DecidableEq, Repr

/-- What an error says. -/
def EventLines.Error.message : EventLines.Error → String
  | .malformed line => "malformed event on line " ++ line.repr ++ ": JSON error:"
  | .unreadable => "IO error:"

/-- Whether reading goes on after an error. -/
def EventLines.Error.isRecoverable : EventLines.Error → Bool
  | .malformed _ => true
  | .unreadable => false

/-- What one look for an event gives. -/
abbrev EventLines.Item := Except EventLines.Error Event

/-- Lines that are still to be read, and how many have been. -/
structure EventLines where
  rest : List (List UInt8)
  read : Nat := 0

namespace EventLines

/-- The lines of bytes: each ends at a line feed, the last one also at the end. -/
def split : List UInt8 → List (List UInt8)
  | [] => []
  | b :: bs =>
    if b = 10 then [] :: split bs
    else
      match split bs with
      | [] => [[b]]
      | line :: lines => (b :: line) :: lines

/-- The lines of bytes, none of them read. -/
def ofBytes (bytes : ByteArray) : EventLines :=
  ⟨split bytes.toList, 0⟩

/-- The text of a line, if it is UTF-8. -/
def text? (line : List UInt8) : Option String :=
  String.fromUTF8? ⟨line.toArray⟩

/-- Whether a line is UTF-8. -/
def isText (line : List UInt8) : Bool :=
  (text? line).isSome

/-- How many lines have been read with one more, after `number` others. A line that is no UTF-8
    cannot be read, and is not counted. -/
def readWith (number : Nat) (line : List UInt8) : Nat :=
  if isText line then number + 1 else number

/-- What a line holds: nothing, if it is blank. -/
def item? (number : Nat) (line : List UInt8) : Option Item :=
  match text? line with
  | none => some (.error .unreadable)
  | some s =>
    let trimmed := Text.trimmed s
    if trimmed.isEmpty then none
    else
      match Event.ofText? trimmed with
      | some e => some (.ok e)
      | none => some (.error (.malformed number))

/-- Look for the next event in lines of which `number` have been read. -/
def nextFrom : Nat → List (List UInt8) → Option Item × EventLines
  | number, [] => (none, ⟨[], number⟩)
  | number, line :: rest =>
    match item? (number + 1) line with
    | some item => (some item, ⟨rest, readWith number line⟩)
    | none => nextFrom (readWith number line) rest

/-- Look for the next event. -/
def next (ls : EventLines) : Option Item × EventLines :=
  nextFrom ls.read ls.rest

/-- Everything that looking for events gives until the lines are used up. -/
def itemsFrom : Nat → List (List UInt8) → List Item
  | _, [] => []
  | number, line :: rest =>
    (item? (number + 1) line).toList ++ itemsFrom (readWith number line) rest

/-- Everything that looking for events gives until the lines are used up. -/
def items (ls : EventLines) : List Item :=
  itemsFrom ls.read ls.rest

end EventLines

end Watchpost
