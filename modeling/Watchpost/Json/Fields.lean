import Watchpost.Json.Syntax

set_option autoImplicit false

/-! # Reading records from JSON

A record is written as an object with a member for each field, or as an array of its fields in
order, where the last ones may be missing. `Syntax.fields?` reads either form into one list of named
fields; members with other names are passed over, whatever they hold. What a missing field means is
said where it is read: `required`, `optional` or `orElse`. -/

namespace Watchpost.Json

/-- Reads a value of a type from a syntax tree. -/
abbrev Reader (α : Type) := Syntax → Option α

/-- The fields of a record, by name. -/
abbrev Fields := List (String × Syntax)

/-- The members of an object that have one of the given names; `none` when a name is unreadable or
    one of the names occurs twice. -/
def namedMembers (names : List String) : List (Option String × Syntax) → Option Fields
  | [] => some []
  | (key, value) :: rest => do
    let key ← key
    let others ← namedMembers names rest
    if names.contains key then
      if others.any (fun (k, _) => k == key) then none else some ((key, value) :: others)
    else some others

/-- The fields of a record with the given field names. -/
def Syntax.fields? (names : List String) : Syntax → Option Fields
  | .object members => namedMembers names members
  | .array items => if items.length ≤ names.length then some (names.zip items) else none
  | _ => none

namespace Fields

/-- A field that must be there. -/
def required {α : Type} (fields : Fields) (key : String) (read : Reader α) : Option α :=
  (fields.lookup key).bind read

/-- A field that may be missing or `null`. -/
def optional {α : Type} (fields : Fields) (key : String) (read : Reader α) : Option (Option α) :=
  match fields.lookup key with
  | none => some none
  | some .null => some none
  | some value => (read value).map some

/-- A field that has a default when it is missing. -/
def orElse {α : Type} (fields : Fields) (key : String) (default : α) (read : Reader α) :
    Option α :=
  match fields.lookup key with
  | none => some default
  | some value => read value

end Fields

/-! ## Readers -/

namespace Read

/-- A string. -/
def text : Reader String
  | .string s => s
  | _ => none

/-- A truth value. -/
def flag : Reader Bool
  | .bool b => some b
  | _ => none

/-- An unsigned number of the given bit width, written as an integer. -/
def word (width : Nat) : Reader Nat
  | .number (some (.integer n _)) =>
    if 0 ≤ n ∧ n < (Nat.pow 2 width : Nat) then some n.toNat else none
  | _ => none

/-- A number, as the nearest double. -/
def double : Reader Binary64
  | .number (some n) => some n.toDouble
  | _ => none

/-- A list of items that are all read the same way. -/
def list {α : Type} (read : Reader α) : Reader (List α)
  | .array items => items.mapM read
  | _ => none

/-- A free-form value whose containers nest at most `depth` deep. -/
def value (depth : Nat) : Reader Json :=
  Syntax.valueWithin depth

/-- The members of a free-form object whose containers nest at most `depth` deep. -/
def members (depth : Nat) : Reader (List (String × Json))
  | .object ms =>
    match Syntax.valueWithin depth (.object ms) with
    | some (.object ms) => some ms
    | _ => none
  | _ => none

/-- One of a set of names, written as a string or as an object whose only member has that name and
    the value `null`. -/
def name {α : Type} (ofName? : String → Option α) : Reader α
  | .string (some s) => ofName? s
  | .object [(some s, .null)] => ofName? s
  | _ => none

end Read

end Watchpost.Json
