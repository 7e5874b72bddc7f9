import Watchpost.Number.Binary64

set_option autoImplicit false

/-! # JSON values

A JSON value is a tree. Numbers are exact integers of 64 bits or finite doubles, and the two never
mix. The members of an object are a list of pairs; `Json.ofMembers` builds the objects of this
library, with keys in increasing order and the last of repeated keys kept, so that a value has one
form. -/

namespace Watchpost

/-! ## Numbers -/

/-- A JSON number: an integer that fits a signed or an unsigned word, or a finite double. -/
inductive Json.Number where
  | integer (n : Int) (inRange : -9223372036854775808 ≤ n ∧ n < 18446744073709551616)
  | double (x : Binary64) (finite : x.isFinite = true)
deriving DecidableEq, Repr

namespace Json.Number

/-- An integer as a JSON number, where it fits. -/
def ofInt? (n : Int) : Option Number :=
  if h : -9223372036854775808 ≤ n ∧ n < 18446744073709551616 then some (.integer n h) else none

/-- A double as a JSON number, where it is finite. -/
def ofDouble? (x : Binary64) : Option Number :=
  if h : x.isFinite = true then some (.double x h) else none

/-- The double nearest to a number. -/
def toDouble : Number → Binary64
  | .integer n _ => Binary64.ofInt n
  | .double x _ => x

end Json.Number

/-! ## Values -/

/-- A JSON value. -/
inductive Json where
  | null
  | bool (b : Bool)
  | number (n : Json.Number)
  | string (s : String)
  | array (items : List Json)
  | object (members : List (String × Json))
deriving Inhabited, Repr

namespace Json

/-- Put a member in its place by key; a member with the same key is replaced. -/
def insertMember (key : String) (value : Json) :
    List (String × Json) → List (String × Json)
  | [] => [(key, value)]
  | (k, v) :: rest =>
    if key < k then (key, value) :: (k, v) :: rest
    else if key = k then (key, value) :: rest
    else (k, v) :: insertMember key value rest

/-- The members of an object in key order, the last of those with equal keys kept. -/
def sortMembers (members : List (String × Json)) : List (String × Json) :=
  members.foldl (fun acc (k, v) => insertMember k v acc) []

/-- The object with the given members. -/
def ofMembers (members : List (String × Json)) : Json :=
  .object (sortMembers members)

/-- The value under a key of a list of members. -/
def findMember (key : String) (members : List (String × Json)) : Option Json :=
  members.lookup key

/-- The value under a key of an object. -/
def get? (j : Json) (key : String) : Option Json :=
  match j with
  | .object members => findMember key members
  | _ => none

/-- The text of a string value. -/
def asString? : Json → Option String
  | .string s => some s
  | _ => none

/-- The double nearest to a number value. -/
def asDouble? : Json → Option Binary64
  | .number n => some n.toDouble
  | _ => none

/-- An integer as a value; one outside 64 bits is written as `null`. -/
def ofInt (n : Int) : Json :=
  match Number.ofInt? n with
  | some m => .number m
  | none => .null

/-- A natural number as a value. -/
def ofNat (n : Nat) : Json := ofInt n

/-- A double as a value; an infinity or a NaN is written as `null`. -/
def ofDouble (x : Binary64) : Json :=
  match Number.ofDouble? x with
  | some m => .number m
  | none => .null

/-- A list of texts as a value. -/
def ofStrings (ss : List String) : Json :=
  .array (ss.map .string)

/-- An optional value; `null` stands for none. -/
def ofOption {α : Type} (f : α → Json) : Option α → Json
  | some a => f a
  | none => .null

/-- A member that is present only when it has a value. -/
def optionalMember {α : Type} (key : String) (f : α → Json) : Option α → List (String × Json)
  | some a => [(key, f a)]
  | none => []

end Json

end Watchpost
