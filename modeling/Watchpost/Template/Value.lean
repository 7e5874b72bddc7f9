import Watchpost.Json.Basic
import Watchpost.Number.Arithmetic
import Watchpost.Number.Layout
import Watchpost.Text.Quoted
import Watchpost.Text.Split

set_option autoImplicit false

/-! # Values of templates

What expressions stand for. A name that nothing is bound to is `undefined`, which prints as nothing.
Maps keep the order of their entries. `Value.text` is how a value prints on its own and
`Value.inside` how it prints within a list or a map. -/

namespace Watchpost.Template

/-- A value. -/
inductive Value where
  | undefined
  | none
  | bool (b : Bool)
  | integer (n : Int)
  | decimal (x : Binary64)
  /-- A text, and whether it is exempt from escaping. -/
  | text (s : String) (safe : Bool)
  | list (items : List Value)
  | map (entries : List (Value × Value))
  /-- The named arguments of a call. -/
  | named (args : List (String × Value))
  /-- A function known by name. -/
  | function (name : String)
  /-- A part of the template that can be called, by its number. -/
  | procedure (id : Nat) (name : String)
  /-- A place whose attributes can be assigned to, by its number. -/
  | space (id : Nat)
  /-- The state of a loop; `memory` is the place of its last seen values. -/
  | loop (index length depth : Nat) (previous following : Value) (memory : Nat)
      (again : Option Nat)
deriving Inhabited

namespace Value

/-- A text that is subject to escaping. -/
def ofString (s : String) : Value := .text s false

/-- A text from its characters. -/
def ofChars (cs : List Char) : Value := .text (String.ofList cs) false

/-- A natural number as a value. -/
def ofNat (n : Nat) : Value := .integer n

/-! ## From JSON -/

mutual

/-- The value of a JSON document. -/
def ofJson : Json → Value
  | .null => .none
  | .bool b => .bool b
  | .number (.integer n _) => .integer n
  | .number (.double x _) => .decimal x
  | .string s => .text s false
  | .array items => .list (ofItems items)
  | .object members => .map (ofMembers members)

/-- The values of a list of documents. -/
def ofItems : List Json → List Value
  | [] => []
  | item :: rest => ofJson item :: ofItems rest

/-- The entries of an object. -/
def ofMembers : List (String × Json) → List (Value × Value)
  | [] => []
  | (key, value) :: rest => (.text key false, ofJson value) :: ofMembers rest

end

/-! ## Printing -/

mutual

/-- The text of a value within a list or a map. -/
def inside : Value → List Char
  | .undefined => "undefined".toList
  | .none => "None".toList
  | .bool b => (if b then "True" else "False").toList
  | .integer n => Text.signedDecimal n
  | .decimal x => (Layout.logField.formatAny "inf" "NaN" x).toList
  | .text s _ => Text.quoted s
  | .list items => '[' :: insideItems items ++ [']']
  | .map entries => '\x7b' :: insideEntries entries ++ ['\x7d']
  | .named args => '\x7b' :: insideArgs args ++ ['\x7d']
  | .function name => name.toList
  | .procedure _ name => "<macro ".toList ++ name.toList ++ ['>']
  | .space _ => "\x7b\x7d".toList
  | .loop index length _ _ _ _ _ =>
    "<loop ".toList ++ Text.decimal index ++ '/' :: Text.decimal length ++ ['>']

/-- The texts of items with commas between them. -/
def insideItems : List Value → List Char
  | [] => []
  | [v] => inside v
  | v :: next :: rest => inside v ++ ',' :: ' ' :: insideItems (next :: rest)

/-- The texts of entries with commas between them. -/
def insideEntries : List (Value × Value) → List Char
  | [] => []
  | [(k, v)] => inside k ++ ':' :: ' ' :: inside v
  | (k, v) :: next :: rest =>
    inside k ++ ':' :: ' ' :: inside v ++ ',' :: ' ' :: insideEntries (next :: rest)

/-- The texts of named arguments with commas between them. -/
def insideArgs : List (String × Value) → List Char
  | [] => []
  | [(k, v)] => Text.quoted k ++ ':' :: ' ' :: inside v
  | (k, v) :: next :: rest =>
    Text.quoted k ++ ':' :: ' ' :: inside v ++ ',' :: ' ' :: insideArgs (next :: rest)

end

/-- The text of a value on its own. -/
def chars : Value → List Char
  | .undefined => []
  | .text s _ => s.toList
  | .decimal x => (Layout.pointed.formatAny "inf" "NaN" x).toList
  | v => inside v

/-- The text of a value on its own. -/
def toText (v : Value) : String :=
  String.ofList v.chars

/-! ## Kinds -/

/-- The text of a text value. -/
def asText? : Value → Option String
  | .text s _ => some s
  | _ => Option.none

/-- Whether a value is `undefined`. -/
def isUndefined : Value → Bool
  | .undefined => true
  | _ => false

/-- Whether a value is a number. -/
def isNumber : Value → Bool
  | .integer _ | .decimal _ => true
  | _ => false

/-- The place of a value's kind among all kinds. -/
def rank : Value → Nat
  | .undefined => 0
  | .none => 1
  | .bool _ => 2
  | .integer _ | .decimal _ => 3
  | .text _ _ => 4
  | .list _ => 6
  | .map _ | .named _ | .space _ => 7
  | .function _ | .procedure _ _ | .loop _ _ _ _ _ _ _ => 9

/-- Whether a condition on a value holds. -/
def isTrue : Value → Bool
  | .undefined | .none => false
  | .bool b => b
  | .integer n => n != 0
  | .decimal x => !(x.equals Binary64.zero)
  | .text s _ => !s.isEmpty
  | .list items => !items.isEmpty
  | .map entries => !entries.isEmpty
  | .named args => !args.isEmpty
  | _ => true

/-- The integer that a value stands for where an integer is asked for: a whole double and a truth
    value do as well. -/
def asInt? : Value → Option Int
  | .integer n => some n
  | .bool b => some (if b then 1 else 0)
  | .decimal x => if x.isWhole then some x.truncate else Option.none
  | _ => Option.none

/-- The double that a value stands for where a number is asked for. -/
def asDouble? : Value → Option Binary64
  | .integer n => some (Binary64.ofInt n)
  | .bool b => some (Binary64.ofNat (if b then 1 else 0))
  | .decimal x => some x
  | _ => Option.none

/-! ## Equality and order -/

/-- Two values brought to a common kind. -/
inductive Common where
  | integers (a b : Int)
  | doubles (x y : Binary64)
  | texts (s t : String)
  | neither

/-- The double of a number, where it is exact. -/
def exactDouble? (v : Value) : Option Binary64 :=
  match v with
  | .integer n =>
    let x := Binary64.ofInt n
    if x.isFinite && x.truncate == n then some x else Option.none
  | _ => v.asDouble?

/-- Bring two values to a common kind, integers becoming doubles by `widen`. -/
def common (widen : Value → Option Binary64) (a b : Value) : Common :=
  let viaDoubles : Common :=
    match widen a, widen b with
    | some x, some y => .doubles x y
    | _, _ => .neither
  match a, b with
  | .text s _, .text t _ => .texts s t
  | .decimal _, _ | _, .decimal _ => viaDoubles
  | _, _ =>
    match a.asInt?, b.asInt? with
    | some m, some n => .integers m n
    | _, _ => .neither

mutual

/-- Whether two values are equal. -/
def same : Value → Value → Bool
  | .undefined, .undefined => true
  | .none, .none => true
  | .list xs, .list ys => sameItems xs ys
  | .map es, .map fs => es.length == fs.length && sameEntries es fs
  | a, b =>
    match common exactDouble? a b with
    | .integers m n => m == n
    | .doubles x y => x.equals y
    | .texts s t => s == t
    | .neither => false

/-- Whether two lists have equal items. -/
def sameItems : List Value → List Value → Bool
  | [], [] => true
  | x :: xs, y :: ys => same x y && sameItems xs ys
  | _, _ => false

/-- Whether every entry has an equal one among others. -/
def sameEntries : List (Value × Value) → List (Value × Value) → Bool
  | [], _ => true
  | (k, v) :: rest, fs =>
    (match fs.find? fun f => same k f.1 with
      | some f => same v f.2
      | Option.none => false) && sameEntries rest fs

end

/-- The order of two values of one kind that are no lists or maps. -/
def scalarOrder (a b : Value) : Ordering :=
  match common exactDouble? a b with
  | .integers m n => Ord.compare m n
  | .doubles x y => Ord.compare x.totalKey y.totalKey
  | .texts s t => Ord.compare s t
  | .neither => .eq

mutual

/-- The order of two values: by kind, then by value. -/
def order : Value → Value → Ordering
  | .list xs, .list ys => orderItems xs ys
  | .map es, .map fs => orderEntries es fs
  | a, b => (Ord.compare a.rank b.rank).then (scalarOrder a b)

/-- The order of two lists, item by item. -/
def orderItems : List Value → List Value → Ordering
  | [], [] => .eq
  | [], _ :: _ => .lt
  | _ :: _, [] => .gt
  | x :: xs, y :: ys => (order x y).then (orderItems xs ys)

/-- The order of two maps, entry by entry. -/
def orderEntries : List (Value × Value) → List (Value × Value) → Ordering
  | [], [] => .eq
  | [], _ :: _ => .lt
  | _ :: _, [] => .gt
  | (k, v) :: es, (l, w) :: fs => ((order k l).then (order v w)).then (orderEntries es fs)

end

/-! ## Parts -/

/-- The value under a key of a map. -/
def lookup? (key : Value) (entries : List (Value × Value)) : Option Value :=
  (entries.find? fun e => same key e.1).map (·.2)

/-- The items that a loop over a value goes through; `none` for a value that has no items. -/
def items? : Value → Option (List Value)
  | .undefined | .none => some []
  | .text s _ => some (s.toList.map fun c => ofChars [c])
  | .list items => some items
  | .map entries => some (entries.map (·.1))
  | .named args => some (args.map fun a => ofString a.1)
  | _ => Option.none

/-- How many items a value has. -/
def size? : Value → Option Nat
  | .undefined | .none => Option.none
  | .text s _ => some s.length
  | v => v.items?.map List.length

/-- The item of a list at a position, a negative one counting from the end. -/
def at? {α : Type} (items : List α) (i : Int) : Option α :=
  if i < 0 then
    if items.length < i.natAbs then Option.none else items[items.length - i.natAbs]?
  else items[i.natAbs]?

/-- The value under a key, if there is one. -/
def part? (v key : Value) : Option Value :=
  match v with
  | .map entries => lookup? key entries
  | .named args => key.asText?.bind fun k => args.lookup k
  | .list items => key.asInt?.bind fun i => at? items i
  | .text s _ => key.asInt?.bind fun i => (at? s.toList i).map fun c => ofChars [c]
  | .loop index length depth previous following _ _ =>
    key.asText?.bind fun
      | "index" => some (.ofNat (index + 1))
      | "index0" => some (.ofNat index)
      | "revindex" => some (.ofNat (length - index))
      | "revindex0" => some (.ofNat (length - index - 1))
      | "first" => some (.bool (index == 0))
      | "last" => some (.bool (index + 1 == length))
      | "length" => some (.ofNat length)
      | "depth" => some (.ofNat (depth + 1))
      | "depth0" => some (.ofNat depth)
      | "previtem" => some previous
      | "nextitem" => some following
      | _ => Option.none
  | .procedure _ name =>
    key.asText?.bind fun
      | "name" => some (.ofString name)
      | _ => Option.none
  | _ => Option.none

end Value

end Watchpost.Template
