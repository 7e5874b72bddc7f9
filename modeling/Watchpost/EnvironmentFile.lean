import Watchpost.Environment
import Watchpost.Text.Blank
import Watchpost.Text.Case

set_option autoImplicit false

/-! # Environment files

A file of assignments, one a line, adds variables to an environment without changing those that are
set. Values may be quoted, also over several lines, and refer to earlier variables behind a dollar
sign. Reading stops at the first line that is no assignment; those before it count. -/

namespace Watchpost.EnvironmentFile

/-! ## Lines -/

/-- Where a reader of lines stands. -/
inductive Place where
  | plain
  | blank
  | escape
  | double
  | doubleEscape
  | single
  | singleEscape
deriving DecidableEq, Repr

/-- The place after one more character; `none` where a comment starts. -/
def Place.next? (p : Place) (c : Char) : Option Place :=
  let start : Place :=
    match c with
    | '\\' => .escape
    | '"' => .double
    | '\'' => .single
    | _ => .plain
  match p with
  | .blank => if c == '#' then none else some start
  | .plain => some (if Text.isBlank c && c != '\n' && c != '\r' then .blank else start)
  | .escape => some .plain
  | .double => some (if c == '\\' then .doubleEscape else if c == '"' then .plain else .double)
  | .doubleEscape => some .double
  | .single => some (if c == '\\' then .singleEscape else if c == '\'' then .plain else .single)
  | .singleEscape => some .single

/-- Go over one line: the place at its end, or the part before a comment. -/
def scan : Place → List Char → Place × Option (List Char)
  | p, [] => (p, none)
  | p, c :: rest =>
    match p.next? c with
    | none => (p, some [])
    | some q =>
      let (last, cut) := scan q rest
      (last, cut.map (c :: ·))

/-- Split bytes after each line feed. -/
def physicalLines : List UInt8 → List (List UInt8)
  | [] => []
  | b :: rest =>
    if b = 10 then [b] :: physicalLines rest
    else
      match physicalLines rest with
      | [] => [[b]]
      | line :: lines => (b :: line) :: lines

/-- The text of lines, up to the first that is no UTF-8. -/
def decoded : List (List UInt8) → List (List Char)
  | [] => []
  | line :: rest =>
    match String.fromUTF8? ⟨line.toArray⟩ with
    | none => []
    | some s => s.toList :: decoded rest

/-- Put lines together while a quote is open; `none` stands for an end within a quote. -/
def logicalLines : Place → List Char → List (List Char) → List (Option (List Char))
  | p, _, [] => if p == .plain then [] else [none]
  | p, held, line :: rest =>
    let whole := held ++ line
    if (Text.trimStart whole).head? == some '#' then some [] :: logicalLines .plain [] rest
    else
      match scan p line with
      | (_, some cut) => some (held ++ cut) :: logicalLines .plain [] rest
      | (.plain, none) => some whole :: logicalLines .plain [] rest
      | (last, none) => logicalLines last whole rest

/-! ## Values -/

/-- How a reader of a value is reading. -/
inductive Mode where
  | plain
  | double
  /-- A name behind a dollar sign, within double quotes or not. -/
  | name (quoted : Bool)
  /-- A name in braces. -/
  | braced (quoted : Bool)
deriving DecidableEq, Repr

/-- Whether nothing but blanks and a comment follows. -/
def isEnd (cs : List Char) : Bool :=
  match cs.dropWhile fun c => c == ' ' || c == '\t' with
  | [] => true
  | c :: _ => c == '#'

/-- The character behind a backslash. -/
def escaped? (c : Char) : Option Char :=
  if c == 'n' then some '\n'
  else if "\\'\"$ ".toList.contains c then some c
  else none

/-- Read single quotes: what is in them and what follows. -/
def single? : List Char → Option (List Char × List Char)
  | [] => none
  | c :: rest =>
    if c == '\'' then some ([], rest) else (single? rest).map fun (s, r) => (c :: s, r)

/-- Read a value. `known` has the values of names; `name` holds the letters of one that is being
    read. -/
def value? (known : String → String) : Nat → Mode → List Char → List Char → Option (List Char)
  | 0, _, _, _ => none
  | fuel + 1, mode, name, cs =>
    let found := (known (String.ofList name)).toList
    let back (quoted : Bool) : Mode := if quoted then .double else .plain
    match mode, cs with
    | .plain, [] => some []
    | .double, [] => none
    | .name quoted, [] => if quoted then none else some found
    | .braced _, [] => none
    | .name quoted, c :: rest =>
      if c.isAlphanum || (127 < c.toNat && !Text.isBlank c) then
        value? known fuel mode (name ++ [c]) rest
      else if c == '\x7b' && name.isEmpty then value? known fuel (.braced quoted) [] rest
      else if c == '$' then (value? known fuel mode [] rest).map (found ++ ·)
      else (value? known fuel (back quoted) [] rest).map (found ++ c :: ·)
    | .braced quoted, c :: rest =>
      if c == '\x7d' then (value? known fuel (back quoted) [] rest).map (found ++ ·)
      else value? known fuel mode (name ++ [c]) rest
    | mode, '$' :: rest => value? known fuel (.name (mode == .double)) [] rest
    | mode, '\\' :: c :: rest => do
      let d ← escaped? c
      return d :: (← value? known fuel mode [] rest)
    | mode, ['\\'] => if mode == .double then none else some []
    | .double, c :: rest =>
      if c == '"' then value? known fuel .plain [] rest
      else (value? known fuel .double [] rest).map (c :: ·)
    | .plain, '\'' :: rest => do
      let (inner, rest) ← single? rest
      return inner ++ (← value? known fuel .plain [] rest)
    | .plain, c :: rest =>
      if c == '"' then value? known fuel .double [] rest
      else if c == ' ' || c == '\t' then if isEnd rest then some [] else none
      else (value? known fuel .plain [] rest).map (c :: ·)

/-! ## Assignments -/

/-- Read the name of a variable. -/
def key? (cs : List Char) : Option (List Char × List Char) :=
  let isPart (c : Char) : Bool := c.isAlphanum || c == '_' || c == '.'
  match cs with
  | c :: _ =>
    if c.isAlpha || c == '_' then some (cs.takeWhile isPart, Text.trimStart (cs.dropWhile isPart))
    else none
  | [] => none

/-- Read what follows an equals sign. -/
def afterEquals? : List Char → Option (List Char)
  | '=' :: rest => some rest
  | _ => none

/-- Read a line: nothing in it, or a name and its value; `none` if it is no assignment. -/
def assignment? (known : String → String) (line : List Char) :
    Option (Option (String × String)) :=
  let line := Text.trimStart line
  if line.isEmpty || line.head? == some '#' then some none
  else do
    let (key, rest) ← key? line
    let (key, rest) ←
      match afterEquals? rest with
      | some rest => some (key, rest)
      | none =>
        if key == "export".toList then
          (key? rest).bind fun (key, rest) => (afterEquals? rest).map fun rest => (key, rest)
        else none
    let rest := Text.trimStart rest
    if rest.isEmpty || rest.head? == some '#' then return some (String.ofList key, "")
    else
      let value ← value? known (rest.length + 1) .plain [] rest
      return some (String.ofList key, String.ofList value)

/-- A line without its end. -/
def dropBreak (line : List Char) : List Char :=
  if line.getLast? == some '\n' then
    let line := line.dropLast
    if line.getLast? == some '\r' then line.dropLast else line
  else line

/-- The assignments of lines, up to the first line that is none. `env` has the values that a line
    may refer to; those of an assignment can be referred to by the lines after it. -/
def assignments (env : Environment) : List (Option (List Char)) → List (String × String)
  | [] => []
  | none :: _ => []
  | some line :: rest =>
    match assignment? (fun name => (env name).getD "") (dropBreak line) with
    | none => []
    | some none => assignments env rest
    | some (some (key, value)) =>
      let env (name : String) : Option String :=
        (env name).or (if name = key then some value else none)
      (key, value) :: assignments env rest

/-- The bytes of a file without the mark of the byte order. -/
def dropMark : List UInt8 → List UInt8
  | 0xEF :: 0xBB :: 0xBF :: rest => rest
  | bytes => bytes

/-- An environment with the variables of a file added. Of several values for one name the first
    counts. -/
def extend (env : Environment) (content : ByteArray) : Environment :=
  let lines := decoded (physicalLines (dropMark content.toList))
  let found := assignments env (logicalLines .plain [] lines)
  fun name => (env name).or (found.lookup name)

end Watchpost.EnvironmentFile
