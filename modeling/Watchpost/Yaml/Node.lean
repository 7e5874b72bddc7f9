import Watchpost.Yaml.Token

set_option autoImplicit false

/-! # YAML documents

A document is a tree of scalars, sequences, mappings and aliases. Each anchored node has a number,
and an alias holds the number of the node it stands for; the document keeps the numbered nodes. A
number is the count of names anchored before, so anchoring a name anew leaves the next anchor with
the same number, and the later node then stands for both. `Document.ofTokens?` builds the tree from
the tokens of a text that holds a single document. -/

namespace Watchpost.Yaml

/-- A node of a document. -/
inductive Node where
  /-- A scalar with its tag and style. -/
  | scalar (tag : Option String) (style : Style) (text : String)
  | sequence (tag : Option String) (items : List Node)
  | mapping (tag : Option String) (entries : List (Node × Node))
  | alias (target : Nat)
  /-- What stands for the root of a text without a document. -/
  | void
deriving Repr, Inhabited

namespace Node

/-- A value that is not written: an empty plain scalar. -/
def empty : Node := .scalar none .plain ""

mutual

/-- How many events announce a node: one for a leaf, a start and an end for a collection. -/
def events : Node → Nat
  | .sequence _ items => itemEvents items + 2
  | .mapping _ entries => entryEvents entries + 2
  | _ => 1

/-- The events of a list of items. -/
def itemEvents : List Node → Nat
  | [] => 0
  | item :: rest => events item + itemEvents rest

/-- The events of a list of entries. -/
def entryEvents : List (Node × Node) → Nat
  | [] => 0
  | (key, value) :: rest => events key + events value + entryEvents rest

end

end Node

/-- A document: its root and the anchored nodes by number. -/
structure Document where
  root : Node
  anchored : List (Nat × Node)
deriving Repr, Inhabited

namespace Document

/-- The node with a number; of several the one anchored last. -/
def target? (d : Document) (id : Nat) : Option Node :=
  d.anchored.lookup id

/-- The number of events of a document. -/
def events (d : Document) : Nat :=
  d.root.events

end Document

/-! ## Building -/

/-- Tokens that are left, and what has been anchored so far. -/
structure Builder where
  tokens : List Token
  /-- The numbers of anchored names, the latest first. -/
  names : List (List Char × Nat)
  /-- How many different names have been anchored. -/
  count : Nat
  /-- How many anchors there were. -/
  anchors : Nat
  /-- The anchored nodes by number, each with the place of its anchor among all anchors. -/
  anchored : List (Nat × Nat × Node)
  /-- What tag handles stand for. -/
  handles : List (List Char × List Char)
deriving Inhabited

/-- A step that builds something from tokens, or refuses them. -/
abbrev Build := StateT Builder Option

namespace Build

/-- The next token. -/
def peek : Build (Option Token) := do
  return (← get).tokens.head?

/-- Step over a token. -/
def advance : Build Unit :=
  modify fun b => { b with tokens := b.tokens.tail }

/-- Step over a token of one kind, if it is next. -/
def eat (t : Token) : Build Bool := do
  if (← peek) == some t then
    advance
    return true
  else return false

/-- Refuse the tokens. -/
def refuse {α : Type} : Build α := StateT.lift none

/-- The number and the place of an anchor. -/
structure Anchor where
  id : Nat
  place : Nat

/-- Give a name the number of the next anchored node. -/
def register (name : List Char) : Build Anchor := do
  let b ← get
  let id := b.count
  let known := b.names.any fun (n, _) => n == name
  set { b with names := (name, id) :: b.names, count := if known then id else id + 1,
               anchors := b.anchors + 1 }
  return ⟨id, b.anchors⟩

/-- Keep an anchored node under its number; of two nodes with one number the one whose anchor comes
    later. -/
def keep (anchor : Option Anchor) (n : Node) : Build Node := do
  if let some a := anchor then
    modify fun b =>
      if b.anchored.any fun (id, place, _) => id == a.id && decide (a.place < place) then b
      else { b with anchored := (a.id, a.place, n) :: b.anchored }
  return n

/-- The tag that a handle and a suffix make up. -/
def resolveTag (handle suffix : List Char) : Build String := do
  if handle.isEmpty then return String.ofList suffix
  match (← get).handles.lookup handle with
  | some start => return String.ofList (start ++ suffix)
  | none => refuse

/-- Read an anchor and a tag in either order. -/
def properties : Build (Option (List Char) × Option String) := do
  match ← peek with
  | some (.anchor name) => do
    advance
    match ← peek with
    | some (.tag handle suffix) => do
      advance
      return (some name, some (← resolveTag handle suffix))
    | _ => return (some name, none)
  | some (.tag handle suffix) => do
    advance
    let name ← match ← peek with
      | some (.anchor name) => do
        advance
        pure (some name)
      | _ => pure none
    return (name, some (← resolveTag handle suffix))
  | _ => return (none, none)

/-- Whether the next token ends a value in a block mapping, so that it is not written. -/
def endsBlockValue : Option Token → Bool
  | some .key => true
  | some .value => true
  | some .blockEnd => true
  | _ => false

/-- Whether the next token ends an item of a block sequence inside a mapping. -/
def endsInnerItem : Option Token → Bool
  | some .blockEntry => true
  | t => endsBlockValue t

/-- Whether the next token ends an item of a block sequence. -/
def endsItem : Option Token → Bool
  | some .blockEntry => true
  | some .blockEnd => true
  | _ => false

/-- Whether the next token ends a value in brackets. -/
def endsFlowValue (closing : Token) : Option Token → Bool
  | some .flowEntry => true
  | t => t == some closing

mutual

/-- Build a node. In a block, block collections may start; `inner` allows a sequence that is not
    indented further than the mapping around it. -/
def node (block inner : Bool) : Nat → Build Node
  | 0 => refuse
  | fuel + 1 => do
    match ← peek with
    | some (.alias name) => do
      advance
      match (← get).names.lookup name with
      | some id => return .alias id
      | none => refuse
    | _ =>
      let (anchor, tag) ← properties
      let id ← match anchor with
        | some name => (register name).map some
        | none => pure none
      match ← peek with
      | some (.scalar style text) => do
        advance
        keep id (.scalar (tag.filter (· != "!")) style (String.ofList text))
      | some .flowSequenceStart => do
        advance
        keep id (.sequence tag (← flowItems true fuel))
      | some .flowMappingStart => do
        advance
        keep id (.mapping tag (← flowEntries true fuel))
      | some .blockSequenceStart =>
        if block then do
          advance
          keep id (.sequence tag (← blockItems fuel))
        else unwritten id tag
      | some .blockMappingStart =>
        if block then do
          advance
          keep id (.mapping tag (← blockEntries fuel))
        else unwritten id tag
      | some .blockEntry =>
        if inner then do
          keep id (.sequence tag (← innerItems fuel))
        else unwritten id tag
      | _ => unwritten id tag

/-- A node that consists of an anchor or a tag alone. -/
def unwritten (id : Option Anchor) (tag : Option String) : Build Node :=
  if id.isSome || tag.isSome then keep id (.scalar tag .plain "") else refuse

/-- The items of a block sequence. -/
def blockItems : Nat → Build (List Node)
  | 0 => refuse
  | fuel + 1 => do
    if ← eat .blockEnd then return []
    else if ← eat .blockEntry then do
      let item ← if endsItem (← peek) then pure Node.empty else node true false fuel
      return item :: (← blockItems fuel)
    else refuse

/-- The items of a block sequence that is not indented further than the mapping around it. -/
def innerItems : Nat → Build (List Node)
  | 0 => refuse
  | fuel + 1 => do
    if ← eat .blockEntry then do
      let item ← if endsInnerItem (← peek) then pure Node.empty else node true false fuel
      return item :: (← innerItems fuel)
    else return []

/-- The entries of a block mapping. -/
def blockEntries : Nat → Build (List (Node × Node))
  | 0 => refuse
  | fuel + 1 => do
    if ← eat .blockEnd then return []
    else if ← eat .key then do
      let key ← if endsBlockValue (← peek) then pure Node.empty else node true true fuel
      let value ← blockValue fuel
      return (key, value) :: (← blockEntries fuel)
    else refuse

/-- The value of an entry of a block mapping. -/
def blockValue : Nat → Build Node
  | 0 => refuse
  | fuel + 1 => do
    if ← eat .value then
      if endsBlockValue (← peek) then return Node.empty else node true true fuel
    else return Node.empty

/-- The items of a sequence in brackets; after the first, each follows a comma. -/
def flowItems (first : Bool) : Nat → Build (List Node)
  | 0 => refuse
  | fuel + 1 => do
    if ← eat .flowSequenceEnd then return []
    else if ← (if first then pure true else eat .flowEntry) then do
      if ← eat .flowSequenceEnd then return []
      else if ← eat .key then do
        let entry ← flowPair fuel
        return .mapping none [entry] :: (← flowItems false fuel)
      else do
        let item ← node false false fuel
        return item :: (← flowItems false fuel)
    else refuse

/-- A single entry that is an item of a sequence in brackets. A key that is not written takes the
    token after it along. -/
def flowPair : Nat → Build (Node × Node)
  | 0 => refuse
  | fuel + 1 => do
    let t ← peek
    let key ←
      if t == some .value || endsFlowValue .flowSequenceEnd t then do
        advance
        pure Node.empty
      else node false false fuel
    let value ← flowValue .flowSequenceEnd fuel
    return (key, value)

/-- The value of an entry in brackets. -/
def flowValue (closing : Token) : Nat → Build Node
  | 0 => refuse
  | fuel + 1 => do
    if ← eat .value then
      if endsFlowValue closing (← peek) then return Node.empty else node false false fuel
    else return Node.empty

/-- The entries of a mapping in braces; after the first, each follows a comma. -/
def flowEntries (first : Bool) : Nat → Build (List (Node × Node))
  | 0 => refuse
  | fuel + 1 => do
    if ← eat .flowMappingEnd then return []
    else if ← (if first then pure true else eat .flowEntry) then do
      if ← eat .flowMappingEnd then return []
      else if ← eat .key then do
        let t ← peek
        let key ←
          if t == some .value || endsFlowValue .flowMappingEnd t then pure Node.empty
          else node false false fuel
        let value ← flowValue .flowMappingEnd fuel
        return (key, value) :: (← flowEntries false fuel)
      else do
        let key ← node false false fuel
        return (key, Node.empty) :: (← flowEntries false fuel)
    else refuse

end

/-! ## Documents -/

/-- The handles that need no directive. -/
def standardHandles : List (List Char × List Char) :=
  [(['!'], ['!']), (['!', '!'], "tag:yaml.org,2002:".toList)]

/-- Read directives in front of a document. -/
def directives (versions : Nat) (handles : List (List Char × List Char)) : Nat → Build Unit
  | 0 => refuse
  | fuel + 1 => do
    match ← peek with
    | some (.version major minor) =>
      if versions == 0 && major == 1 && (minor == 1 || minor == 2) then do
        advance
        directives 1 handles fuel
      else refuse
    | some (.tagDirective handle start) =>
      if (handles.lookup handle).isSome then refuse
      else do
        advance
        directives versions ((handle, start) :: handles) fuel
    | _ => modify fun b => { b with handles := handles ++ standardHandles }

/-- Pass over markers that end a document. -/
def documentEnds : Nat → Build Unit
  | 0 => return
  | fuel + 1 => do
    if ← eat .documentEnd then documentEnds fuel

/-- Whether a token belongs to the frame of documents and not to their contents. -/
def isFrame : Option Token → Bool
  | none => true
  | some (.version ..) => true
  | some (.tagDirective ..) => true
  | some .documentStart => true
  | some .documentEnd => true
  | _ => false

/-- Build the root of a text that holds one document at most. -/
def document (fuel : Nat) : Build Node := do
  let root ← match ← peek with
    | none => return .void
    | t =>
      if !isFrame t || t == some .documentEnd then do
        modify fun b => { b with handles := standardHandles }
        node true false fuel
      else do
        directives 0 [] fuel
        if ← eat .documentStart then
          if isFrame (← peek) then pure Node.empty else node true false fuel
        else refuse
  documentEnds fuel
  if (← peek).isNone then return root else refuse

end Build

/-- The document that a list of tokens makes up. -/
def Document.ofTokens? (tokens : List Token) : Option Document :=
  let fuel := 2 * tokens.length + 4
  match (Build.document fuel).run ⟨tokens, [], 0, 0, [], []⟩ with
  | some (root, b) => some ⟨root, b.anchored.map fun (id, _, n) => (id, n)⟩
  | none => none

/-- Read the single document of a text. -/
def Document.read? (text : String) : Option Document :=
  (tokens? text).bind Document.ofTokens?

end Watchpost.Yaml
