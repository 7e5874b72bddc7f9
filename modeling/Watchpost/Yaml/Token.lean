import Watchpost.Yaml.Scalar

set_option autoImplicit false

/-! # YAML tokens

A text is read into tokens: indicators, names and scalars, and the starts and ends of block
collections, which only the indentation shows. Whether a scalar is a key is known only when its
colon is met, on the same line and not too far away. So a place where a key may start holds an empty
slot in front of it; the colon fills the slot with the key token, after the start of a mapping where
the key opens one. -/

namespace Watchpost.Yaml

/-- How a scalar is written. -/
inductive Style where
  | plain
  | singleQuoted
  | doubleQuoted
  | literal
  | folded
deriving DecidableEq, Repr, Inhabited

/-- A token of a YAML text. -/
inductive Token where
  | version (major minor : Nat)
  | tagDirective (handle start : List Char)
  | documentStart
  | documentEnd
  | blockSequenceStart
  | blockMappingStart
  | blockEnd
  | flowSequenceStart
  | flowSequenceEnd
  | flowMappingStart
  | flowMappingEnd
  | blockEntry
  | flowEntry
  | key
  | value
  | alias (name : List Char)
  | anchor (name : List Char)
  | tag (handle suffix : List Char)
  | scalar (style : Style) (text : List Char)
deriving DecidableEq, Repr, Inhabited

/-- A place where a key may start. A required one is the only way to go on at its indentation. -/
structure KeyPlace where
  slot : Nat
  required : Bool
  line : Nat
  column : Nat
  index : Nat
deriving Repr, Inhabited

/-- A text that has been read into tokens up to a cursor. -/
structure Lexer where
  cursor : Cursor
  /-- The tokens so far, in slots of zero or more. -/
  slots : Array (List Token)
  /-- The column of the innermost block collection; -1 outside of all. -/
  indent : Int
  /-- The columns of the collections around it. -/
  outer : List Int
  /-- Whether a key may start here. -/
  keyAllowed : Bool
  /-- The possible key of each open bracket, the innermost first, and of the block level. -/
  places : List (Option KeyPlace)
  /-- At least as many steps as are left. -/
  fuel : Nat
deriving Inhabited

namespace Lexer

/-- The start of a text. -/
def start (text : List Char) : Lexer :=
  { cursor := .start text, slots := #[], indent := -1, outer := [], keyAllowed := true,
    places := [none], fuel := text.length + 2 }

/-- Whether some bracket is open. -/
def inFlow (x : Lexer) : Bool := x.places.length > 1

/-- Append a token. -/
def push (x : Lexer) (t : Token) : Lexer :=
  { x with slots := x.slots.push [t] }

/-- Step over an indicator of `n` characters and append a token. -/
def mark (x : Lexer) (n : Nat) (t : Token) : Lexer :=
  { x with cursor := x.cursor.skip n, slots := x.slots.push [t] }

/-- Allow or forbid a key to start here. -/
def allowKey (x : Lexer) (allowed : Bool) : Lexer :=
  { x with keyAllowed := allowed }

/-! ## Places of keys -/

/-- Whether a place still lets a colon here make it a key. -/
def isNear (x : Lexer) (p : KeyPlace) : Bool :=
  p.line == x.cursor.line && decide (x.cursor.index ≤ p.index + 1024)

/-- Forget the places that are too far away; refuse the text if one of them was required. -/
def dropStale (x : Lexer) : Option Lexer :=
  if x.places.any (fun p => p.any fun p => p.required && !x.isNear p) then none
  else some { x with places := x.places.map fun p => p.filter x.isNear }

/-- Forget the innermost place; refuse the text if it was required. -/
def dropPlace (x : Lexer) : Option Lexer :=
  match x.places with
  | some p :: rest => if p.required then none else some { x with places := none :: rest }
  | _ => some x

/-- Remember that a key may start here, if it may. -/
def savePlace (x : Lexer) : Option Lexer :=
  if x.keyAllowed then do
    let x ← x.dropPlace
    let p : KeyPlace :=
      { slot := x.slots.size, required := !x.inFlow && decide (x.indent = x.cursor.column),
        line := x.cursor.line, column := x.cursor.column, index := x.cursor.index }
    some { x with slots := x.slots.push [], places := some p :: x.places.tail }
  else some x

/-! ## Indentation -/

/-- Open a block collection at a column to the right of the current one. Its start is put into the
    given slot, or at the end. -/
def roll (x : Lexer) (column : Nat) (t : Token) (slot : Option Nat) : Lexer :=
  if !x.inFlow && decide (x.indent < column) then
    let x := { x with outer := x.indent :: x.outer, indent := column }
    match slot with
    | some i => { x with slots := x.slots.modify i fun ts => t :: ts }
    | none => x.push t
  else x

/-- Close the block collections to the right of a column. -/
def unroll (column : Int) : List Int → Lexer → Lexer
  | [], x => x
  | o :: rest, x =>
    if x.inFlow || decide (x.indent ≤ column) then x
    else unroll column rest { x.push .blockEnd with indent := o, outer := rest }

/-- Close the block collections to the right of a column. -/
def close (x : Lexer) (column : Int) : Lexer :=
  unroll column x.outer x

/-! ## Between tokens -/

/-- Pass blanks, comments and line ends. A line end lets a key start; a tab may stand only where no
    key can. -/
def skipBlanks : Nat → Lexer → Lexer
  | 0, x => x
  | fuel + 1, x =>
    let tabs := x.inFlow || !x.keyAllowed
    let c := x.cursor.skipWhile fun d => d == ' ' || (tabs && d == '\t')
    let c := if c.rest.head? == some '#' then c.skipToBreak else c
    if !c.rest.isEmpty && startsBreak c.rest then
      skipBlanks fuel { x with cursor := c.skipBreak, keyAllowed := x.keyAllowed || !x.inFlow }
    else { x with cursor := c }

/-! ## Directives -/

/-- Read a version number of at most nine digits. -/
def readVersionNumber (c : Cursor) : Option (Nat × Cursor) :=
  let digits := c.rest.takeWhile Char.isDigit
  if digits.isEmpty || digits.length > 9 then none
  else some (Text.decimalValue digits, c.skip digits.length)

/-- Percent-encoded bytes in front, decoded. -/
def readEscapedBytes : Nat → Cursor → Option (List UInt8 × Cursor)
  | 0, _ => none
  | fuel + 1, c =>
    match c.rest with
    | '%' :: a :: b :: _ => do
      let byte ← Text.ofDigits? 16 [a, b]
      let (bytes, c) ← readEscapedBytes fuel (c.skip 3)
      some (UInt8.ofNat byte :: bytes, c)
    | '%' :: _ => none
    | _ => some ([], c)

/-- A character of a tag. Inside angle brackets three more are allowed. -/
def isTagChar (verbatim : Bool) (c : Char) : Bool :=
  isWord c || ";/?:@&=+$.!~*'()".toList.contains c ||
    (verbatim && (c == ',' || c == '[' || c == ']'))

/-- Read the characters of a tag. -/
def readTagChars (verbatim : Bool) : Nat → List Char → Cursor → Option (List Char × Cursor)
  | 0, _, _ => none
  | fuel + 1, text, c =>
    match c.rest with
    | [] => some (text, c)
    | d :: _ =>
      if d == '%' then do
        let (bytes, c) ← readEscapedBytes (fuel + 1) c
        let decoded ← String.fromUTF8? ⟨bytes.toArray⟩
        readTagChars verbatim fuel (text ++ decoded.toList) c
      else if isTagChar verbatim d then readTagChars verbatim fuel (text ++ [d]) (c.skip 1)
      else some (text, c)

/-- Read a tag handle: an exclamation mark, a word, and perhaps a second mark. -/
def readHandle (c : Cursor) : Option (List Char × Cursor) :=
  match c.rest with
  | '!' :: rest =>
    let word := rest.takeWhile isWord
    let handle := '!' :: word
    let c := c.skip handle.length
    match c.rest with
    | '!' :: _ => some (handle ++ ['!'], c.skip 1)
    | _ => some (handle, c)
  | _ => none

/-- Read the rest of a line that holds a directive. -/
def endDirective (c : Cursor) : Option Cursor :=
  let c := c.skipWhile isSpace
  let c := if c.rest.head? == some '#' then c.skipToBreak else c
  if startsBreak c.rest then some c.skipBreak else none

/-- Read a directive. -/
def directive (x : Lexer) : Option Lexer := do
  let x ← (x.close (-1)).dropPlace
  let c := x.cursor.skip 1
  let name := c.rest.takeWhile isWord
  let c := c.skip name.length
  if !startsBlank c.rest then none
  else
    let c := c.skipWhile isSpace
    if name == "YAML".toList then
      let (major, c) ← readVersionNumber c
      match c.rest with
      | '.' :: _ => do
        let (minor, c) ← readVersionNumber (c.skip 1)
        let c ← endDirective c
        some ({ x with cursor := c, keyAllowed := false }.push (.version major minor))
      | _ => none
    else if name == "TAG".toList then
      let (handle, c) ← readHandle c
      if (handle != ['!'] && (handle.length < 2 || handle.getLast? != some '!')) ||
          !c.rest.head?.any isSpace then none
      else do
        let (start, c) ← readTagChars true x.fuel [] (c.skipWhile isSpace)
        if start.isEmpty || !startsBlank c.rest then none
        else do
          let c ← endDirective c
          some ({ x with cursor := c, keyAllowed := false }.push (.tagDirective handle start))
    else none

/-! ## Indicators -/

/-- A marker that starts or ends a document. -/
def documentMarker (x : Lexer) (t : Token) : Option Lexer := do
  let x ← (x.close (-1)).dropPlace
  some ((x.allowKey false).mark 3 t)

/-- An opening bracket. -/
def openBracket (x : Lexer) (t : Token) : Option Lexer := do
  let x ← x.savePlace
  some ({ x with places := none :: x.places, keyAllowed := true }.mark 1 t)

/-- A closing bracket. -/
def closeBracket (x : Lexer) (t : Token) : Option Lexer := do
  let x ← x.dropPlace
  let places := if x.inFlow then x.places.tail else x.places
  some ({ x with places, keyAllowed := false }.mark 1 t)

/-- A comma between items in brackets. -/
def comma (x : Lexer) : Option Lexer := do
  let x ← x.dropPlace
  some ((x.allowKey true).mark 1 .flowEntry)

/-- A dash before an item. -/
def dash (x : Lexer) : Option Lexer :=
  if !x.inFlow && !x.keyAllowed then none
  else do
    let x ← (x.roll x.cursor.column .blockSequenceStart none).dropPlace
    some ((x.allowKey true).mark 1 .blockEntry)

/-- A question mark before a key. -/
def questionMark (x : Lexer) : Option Lexer :=
  if !x.inFlow && !x.keyAllowed then none
  else do
    let x ← (x.roll x.cursor.column .blockMappingStart none).dropPlace
    some ((x.allowKey !x.inFlow).mark 1 .key)

/-- A colon: it turns the innermost place into a key, if there is one. -/
def colon (x : Lexer) : Option Lexer :=
  match x.places with
  | some p :: rest =>
    if x.isNear p then
      let x := { x with slots := x.slots.modify p.slot fun _ => [.key], places := none :: rest }
      some (((x.roll p.column .blockMappingStart (some p.slot)).allowKey false).mark 1 .value)
    else none
  | _ =>
    if !x.inFlow && !x.keyAllowed then none
    else
      let x := x.roll x.cursor.column .blockMappingStart none
      some ((x.allowKey !x.inFlow).mark 1 .value)

/-! ## Names and scalars -/

/-- The word after an anchor or alias mark. -/
def readName (c : Cursor) : Option (List Char × Cursor) :=
  let word := c.rest.takeWhile isWord
  let c := c.skip word.length
  if word.isEmpty then none
  else if startsBlank c.rest || c.rest.head?.any (fun d => "?:,]\x7d%@\x60".toList.contains d) then
    some (word, c)
  else none

/-- An anchor or an alias. -/
def name (x : Lexer) (token : List Char → Token) : Option Lexer := do
  let x ← x.savePlace
  let (word, c) ← readName (x.cursor.skip 1)
  some ({ x with cursor := c, keyAllowed := false }.push (token word))

/-- Read a tag: verbatim in angle brackets, with a handle, or a plain one. -/
def readTag (fuel : Nat) (c : Cursor) : Option (Token × Cursor) :=
  match c.rest with
  | '!' :: '<' :: _ => do
    let (suffix, c) ← readTagChars true fuel [] (c.skip 2)
    if suffix.isEmpty || c.rest.head? != some '>' then none else some (.tag [] suffix, c.skip 1)
  | _ => do
    let (handle, c) ← readHandle c
    if handle.length > 1 && handle.getLast? == some '!' then do
      let (suffix, c) ← readTagChars false fuel [] c
      if suffix.isEmpty then none else some (.tag handle suffix, c)
    else do
      let (suffix, c) ← readTagChars false fuel handle.tail c
      some (if suffix.isEmpty then .tag [] ['!'] else .tag ['!'] suffix, c)

/-- A tag. -/
def tag (x : Lexer) : Option Lexer := do
  let x ← x.savePlace
  let (t, c) ← readTag x.fuel x.cursor
  if startsBlank c.rest || (x.inFlow && c.rest.head? == some ',') then
    some ({ x with cursor := c, keyAllowed := false }.push t)
  else none

/-- A block scalar. -/
def block (x : Lexer) (literal : Bool) : Option Lexer := do
  let x ← x.dropPlace
  let (text, c) ← readBlock literal x.indent x.fuel (x.cursor.skip 1)
  some ({ x with cursor := c, keyAllowed := true }.push
    (.scalar (if literal then .literal else .folded) text))

/-- A quoted scalar. -/
def quoted (x : Lexer) (single : Bool) : Option Lexer := do
  let x ← x.savePlace
  let (text, c) ← readQuoted single x.fuel [] (x.cursor.skip 1)
  some ({ x with cursor := c, keyAllowed := false }.push
    (.scalar (if single then .singleQuoted else .doubleQuoted) text))

/-- A plain scalar. A line end after its last word lets a key start. -/
def plain (x : Lexer) : Option Lexer := do
  let x ← x.savePlace
  let (text, broken, c) ← readPlain x.inFlow (x.indent + 1).toNat x.fuel .none [] x.cursor
  some ({ x with cursor := c, keyAllowed := broken }.push (.scalar .plain text))

/-! ## All tokens -/

/-- Whether a plain scalar may start with a character that is followed by `rest`. -/
def startsPlain (inFlow : Bool) (c : Char) (rest : List Char) : Bool :=
  if c == '-' then !rest.head?.any isSpace
  else if c == '?' || c == ':' then !inFlow && !startsBlank rest
  else !isSpace c && !",[]\x7b\x7d#&*!|>'\"%@\x60".toList.contains c

/-- Read the next token. -/
def next (x : Lexer) : Option Lexer :=
  let c := x.cursor
  match c.rest with
  | [] => none
  | d :: rest =>
    if c.column == 0 && d == '%' then x.directive
    else if c.atDocumentMarker then
      x.documentMarker (if d == '-' then .documentStart else .documentEnd)
    else if d == '[' then x.openBracket .flowSequenceStart
    else if d == '\x7b' then x.openBracket .flowMappingStart
    else if d == ']' then x.closeBracket .flowSequenceEnd
    else if d == '\x7d' then x.closeBracket .flowMappingEnd
    else if d == ',' then x.comma
    else if d == '-' && startsBlank rest then x.dash
    else if d == '?' && (x.inFlow || startsBlank rest) then x.questionMark
    else if d == ':' && (x.inFlow || startsBlank rest) then x.colon
    else if d == '*' then x.name .alias
    else if d == '&' then x.name .anchor
    else if d == '!' then x.tag
    else if d == '|' && !x.inFlow then x.block true
    else if d == '>' && !x.inFlow then x.block false
    else if d == '\'' then x.quoted true
    else if d == '"' then x.quoted false
    else if startsPlain x.inFlow d rest then x.plain
    else none

/-- Read all tokens that are left. -/
def run : Nat → Lexer → Option Lexer
  | 0, _ => none
  | fuel + 1, x => do
    let x ← (skipBlanks x.fuel x).dropStale
    let x := x.close x.cursor.column
    if x.cursor.rest.isEmpty then (x.close (-1)).dropPlace
    else run fuel (← x.next)

end Lexer

/-- The tokens of a YAML text; a byte order mark in front of it is passed over. -/
def tokens? (text : String) : Option (List Token) :=
  let cs := match text.toList with
    | '\ufeff' :: rest => rest
    | cs => cs
  if cs.all isAllowed then
    (Lexer.run (cs.length + 2) (.start cs)).map fun x => x.slots.toList.flatten
  else none

end Watchpost.Yaml
