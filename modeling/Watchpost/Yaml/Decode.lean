import Watchpost.Json.Basic
import Watchpost.Yaml.Node
import Watchpost.Yaml.Plain

set_option autoImplicit false

/-! # Reading values from YAML documents

Readers take a node and the depth to which containers may still nest. An alias stands for its target
wherever a node is looked at; how often that may happen is bounded by the size of the document, so
that a short text cannot unfold into an endless value. A node with a tag of its own, one that starts
with an exclamation mark, is no plain value. -/

namespace Watchpost.Yaml

/-- Reading with a document at hand and a count of the aliases followed. -/
abbrev Decode (α : Type) := ReaderT Document (StateT Nat Option) α

/-- Reads a value from a node whose containers nest at most so deep. -/
abbrev Reader (α : Type) := Nat → Node → Decode α

namespace Decode

/-- Refuse a node. -/
def refuse {α : Type} : Decode α := fun _ _ => none

/-- Take a value that is there, or refuse. -/
def ofOption {α : Type} (o : Option α) : Decode α := fun _ n => o.map (·, n)

/-- The deepest nesting of containers. -/
def maxDepth : Nat := 128

/-- How many aliases may be followed, for each event of the document. -/
def aliasesPerEvent : Nat := 100

/-- The node itself, or the target of an alias. -/
def target (n : Node) : Decode Node :=
  match n with
  | .alias id => do
    let followed := (← get) + 1
    set followed
    let document ← read
    if document.events * aliasesPerEvent < followed then refuse
    else ofOption (document.target? id)
  | n => return n

/-- Whether a node is a container that is not written: an empty plain scalar, or no root at all. -/
def isUnwritten : Node → Bool
  | .void => true
  | .scalar _ .plain "" => true
  | _ => false

/-! ## Tags -/

/-- The tag of a standard type. -/
def coreTag (name : String) : String := "tag:yaml.org,2002:" ++ name

/-- The name in a tag of one's own. -/
def ownTag? (tag : Option String) : Option String :=
  match tag.map String.toList with
  | some ('!' :: rest) => some (String.ofList rest)
  | _ => none

/-- Whether the text of a scalar may denote something other than itself where a type is expected:
    it is plain, or a literal block with the tag of that type. -/
def mayDenote (type : String) (tag : Option String) (style : Style) : Bool :=
  match style with
  | .plain => true
  | .literal => tag == some (coreTag type)
  | _ => false

/-! ## Scalars -/

/-- A string: the text of any scalar. -/
def text : Reader String := fun _ n => do
  match ← target n with
  | .scalar _ _ s => return s
  | _ => refuse

/-- A truth value. -/
def flag : Reader Bool := fun _ n => do
  match ← target n with
  | .scalar tag style s => if mayDenote "bool" tag style then ofOption (Plain.bool? s) else refuse
  | _ => refuse

/-- An unsigned number of the given bit width. -/
def word (width : Nat) : Reader Nat := fun _ n => do
  match ← target n with
  | .scalar tag style s =>
    if mayDenote "int" tag style then ofOption (Plain.unsigned? (Nat.pow 2 width) s.toList)
    else refuse
  | _ => refuse

/-- A double. -/
def double : Reader Binary64 := fun _ n => do
  match ← target n with
  | .scalar tag style s =>
    if mayDenote "float" tag style then ofOption (Plain.double? s) else refuse
  | _ => refuse

/-- One of a set of names: the text of a scalar, or a tag of one's own before nothing. -/
def name {α : Type} (ofName? : String → Option α) : Reader α := fun _ n => do
  match ← target n with
  | .scalar tag style s =>
    match ownTag? tag with
    | some own =>
      if style == .plain && (s.isEmpty || Plain.isNull s) then ofOption (ofName? own) else refuse
    | none => ofOption (ofName? s)
  | _ => refuse

/-! ## Containers -/

/-- A list of items that are all read the same way. -/
def list {α : Type} (item : Reader α) : Reader (List α) := fun depth n => do
  let n ← target n
  if isUnwritten n then return []
  match n, depth with
  | .sequence _ items, depth + 1 => items.mapM (item depth)
  | _, _ => refuse

/-- A value that may be null or empty. -/
def optional {α : Type} (item : Reader α) : Reader (Option α) := fun depth n => do
  let n ← target n
  match n with
  | .void => return none
  | .scalar tag .plain s =>
    match tag with
    | none => if s.isEmpty || Plain.isNull s then return none else return some (← item depth n)
    | some t =>
      if t == coreTag "null" then
        if Plain.isNull s then return none else refuse
      else return some (← item depth n)
  | _ => return some (← item depth n)

/-- Take up an entry of a record if its name is one of those wanted, and refuse it if that name has
    been taken up already. -/
def takeEntry (names : List String) (depth : Nat) (found : List (String × Node))
    (entry : Node × Node) : Decode (List (String × Node)) := do
  let key ← text depth entry.1
  if !names.contains key then return found
  else if found.any fun (k, _) => k == key then refuse
  else return (key, entry.2) :: found

/-- The fields of a record with the given names, and the depth left for them. Other entries are
    passed over; a name that occurs twice is refused. -/
def fields (names : List String) (depth : Nat) (n : Node) :
    Decode (List (String × Node) × Nat) := do
  let n ← target n
  if isUnwritten n then return ([], depth)
  match n, depth with
  | .mapping _ entries, depth + 1 => return (← entries.foldlM (takeEntry names depth) [], depth)
  | _, _ => refuse

/-- A field that must be there. -/
def required {α : Type} (record : List (String × Node) × Nat) (key : String) (item : Reader α) :
    Decode α :=
  match record.1.lookup key with
  | some n => item record.2 n
  | none => refuse

/-- A field that has a default when it is missing. -/
def orElse {α : Type} (record : List (String × Node) × Nat) (key : String) (default : α)
    (item : Reader α) : Decode α :=
  match record.1.lookup key with
  | some n => item record.2 n
  | none => return default

/-! ## Free-form values -/

/-- The value of a plain scalar without a tag. -/
def plainValue (s : String) : Option Json :=
  if s.isEmpty || Plain.isNull s then some .null
  else
    match Plain.bool? s with
    | some b => some (.bool b)
    | none =>
      match Plain.integer? s.toList with
      | some n => some (.ofInt n)
      | none =>
        if Plain.isWideInteger s.toList then none
        else if Plain.hasLeadingZero s.toList then some (.string s)
        else
          match Plain.double? s with
          | some x => some (.ofDouble x)
          | none => some (.string s)

/-- The value of a scalar. -/
def scalarValue (tag : Option String) (style : Style) (s : String) : Option Json :=
  match tag with
  | none => if style == .plain then plainValue s else some (.string s)
  | some t =>
    if (ownTag? tag).isSome then none
    else if t == coreTag "bool" then (Plain.bool? s).map .bool
    else if t == coreTag "int" then (Plain.integer? s.toList).map .ofInt
    else if t == coreTag "float" then (Plain.double? s).map .ofDouble
    else if t == coreTag "null" then if Plain.isNull s then some .null else none
    else some (.string s)

/-- The value of a node that is no container. -/
def leafValue : Node → Decode Json
  | .scalar tag style s => ofOption (scalarValue tag style s)
  | .void => return .null
  | _ => refuse

/-- A free-form value. The keys of mappings are the texts of scalars; of equal keys the last one
    counts. -/
def value : Reader Json
  | 0, n => do leafValue (← target n)
  | depth + 1, n => do
    match ← target n with
    | .sequence tag items =>
      if (ownTag? tag).isSome then refuse
      else return .array (← items.mapM (value depth))
    | .mapping tag entries =>
      if (ownTag? tag).isSome then refuse
      else
        return .ofMembers (← entries.mapM fun (key, item) => do
          return (← text depth key, ← value depth item))
    | n => leafValue n

/-- The members of a free-form mapping. -/
def members : Reader (List (String × Json)) := fun depth n => do
  let n ← target n
  if isUnwritten n then return []
  match n, depth with
  | .mapping _ entries, depth + 1 =>
    return Json.sortMembers (← entries.mapM fun (key, item) => do
      return (← text depth key, ← value depth item))
  | _, _ => refuse

end Decode

/-- Read the single document of a text. -/
def decode? {α : Type} (reader : Reader α) (source : String) : Option α := do
  let document ← Document.read? source
  let (a, _) ← ((reader Decode.maxDepth document.root).run document).run 0
  some a

end Watchpost.Yaml
