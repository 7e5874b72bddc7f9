import Watchpost.Text.Digits
import Watchpost.Yaml.Cursor

set_option autoImplicit false

/-! # The text of YAML scalars

Scalars are plain, in single or double quotes, or blocks. Each reader here takes the cursor at the
start of a scalar and answers with its text and the cursor behind it. Lines are folded on the way: a
single line end between two words becomes a space, and of several line ends the first is dropped.
Fuel bounds the number of steps; the length of the text is enough. -/

namespace Watchpost.Yaml

/-! ## Folding -/

/-- Blanks and line ends met since the last word: blanks on the line of that word, the first line
    end, and those after it. -/
structure Gap where
  blanks : List Char
  first : List Char
  others : List Char
  broken : Bool
deriving Repr, Inhabited

namespace Gap

/-- Nothing between two words. -/
def none : Gap := ⟨[], [], [], false⟩

/-- What a gap stands for in the text of a scalar. -/
def text (g : Gap) : List Char :=
  if g.broken then
    if g.first == ['\n'] then if g.others.isEmpty then [' '] else g.others
    else g.first ++ g.others
  else g.blanks

/-- Add a line end to a gap. -/
def addBreak (g : Gap) (ending : List Char) : Gap :=
  if g.broken then { g with others := g.others ++ ending }
  else ⟨[], ending, [], true⟩

/-- Add a blank to a gap; at the start of a line it counts for nothing. -/
def addBlank (g : Gap) (c : Char) : Gap :=
  if g.broken then g else { g with blanks := g.blanks ++ [c] }

end Gap

/-- Gather blanks and line ends. In a plain scalar a tab left of `indent` is refused. -/
def readGap (indent : Option Nat) : Nat → Gap → Cursor → Option (Gap × Cursor)
  | 0, _, _ => none
  | fuel + 1, g, c =>
    match c.rest with
    | d :: _ =>
      if isSpace d then
        if g.broken && d == '\t' && indent.any (fun n => decide (c.column < n)) then none
        else readGap indent fuel (g.addBlank d) (c.skip 1)
      else if isBreak d then readGap indent fuel (g.addBreak c.breakText) c.skipBreak
      else some (g, c)
    | [] => some (g, c)

/-! ## Plain scalars -/

/-- A character that ends a plain scalar inside brackets. -/
def isFlowMark (c : Char) : Bool :=
  c == ',' || c == '[' || c == ']' || c == '\x7b' || c == '\x7d'

/-- Read a word of a plain scalar: characters up to a blank or an indicator. The outer `none` is a
    colon inside brackets that belongs to nothing. -/
def readPlainWord (inFlow : Bool) : Nat → List Char → Cursor → Option (List Char × Cursor)
  | 0, _, _ => none
  | fuel + 1, word, c =>
    match c.rest with
    | [] => some (word, c)
    | d :: rest =>
      if startsBlank (d :: rest) then some (word, c)
      else if inFlow && d == ':' && rest.head?.any (fun e => isFlowMark e || e == '?') then none
      else if (d == ':' && startsBlank rest) || (inFlow && isFlowMark d) then some (word, c)
      else readPlainWord inFlow fuel (d :: word) (c.skip 1)

/-- Read the words of a plain scalar that starts left of no `indent`. Also tells whether a line end
    was passed after the last word. -/
def readPlain (inFlow : Bool) (indent : Nat) :
    Nat → Gap → List Char → Cursor → Option (List Char × Bool × Cursor)
  | 0, _, _, _ => none
  | fuel + 1, gap, text, c =>
    if c.atDocumentMarker || c.rest.head? == some '#' then some (text, gap.broken, c)
    else do
      let (word, c) ← readPlainWord inFlow (fuel + 1) [] c
      let (gap, text) :=
        if word.isEmpty then (gap, text) else (Gap.none, text ++ gap.text ++ word.reverse)
      if startsBlank c.rest && !c.rest.isEmpty then do
        let (gap, c) ← readGap (some indent) (fuel + 1) gap c
        if !inFlow && decide (c.column < indent) then some (text, gap.broken, c)
        else readPlain inFlow indent fuel gap text c
      else some (text, gap.broken, c)

/-! ## Quoted scalars -/

/-- The character that an escape letter stands for. -/
def escapedChar? : Char → Option Char
  | '0' => some '\x00'
  | 'a' => some '\x07'
  | 'b' => some '\x08'
  | 't' => some '\t'
  | '\t' => some '\t'
  | 'n' => some '\n'
  | 'v' => some '\x0b'
  | 'f' => some '\x0c'
  | 'r' => some '\r'
  | 'e' => some '\x1b'
  | ' ' => some ' '
  | '"' => some '"'
  | '/' => some '/'
  | '\\' => some '\\'
  | 'N' => some '\u0085'
  | '_' => some '\u00a0'
  | 'L' => some '\u2028'
  | 'P' => some '\u2029'
  | _ => none

/-- How many hexadecimal digits follow an escape letter. -/
def escapedDigits? : Char → Option Nat
  | 'x' => some 2
  | 'u' => some 4
  | 'U' => some 8
  | _ => none

/-- The character with a code point, unless it is half a surrogate pair or too large. -/
def charOfCode? (n : Nat) : Option Char :=
  if (0xD800 ≤ n ∧ n ≤ 0xDFFF) ∨ 0x10FFFF < n then none else some (Char.ofNat n)

/-- Read an escape after its backslash. -/
def readEscape (c : Cursor) : Option (Char × Cursor) :=
  match c.rest with
  | [] => none
  | e :: rest =>
    match escapedDigits? e with
    | some n =>
      let digits := rest.take n
      if digits.length = n then do
        let code ← Text.ofDigits? 16 digits
        let d ← charOfCode? code
        some (d, c.skip (n + 1))
      else none
    | none => (escapedChar? e).map fun d => (d, c.skip 1)

/-- Read the characters of a quoted scalar up to a blank, its closing quote or an escaped line end.
    The flag tells of the last. -/
def readQuotedWord (single : Bool) : Nat → List Char → Cursor → Option (List Char × Bool × Cursor)
  | 0, _, _ => none
  | fuel + 1, word, c =>
    match c.rest with
    | [] => some (word, false, c)
    | d :: rest =>
      if startsBlank (d :: rest) then some (word, false, c)
      else if single then
        if d == '\'' then
          if rest.head? == some '\'' then readQuotedWord single fuel ('\'' :: word) (c.skip 2)
          else some (word, false, c)
        else readQuotedWord single fuel (d :: word) (c.skip 1)
      else if d == '"' then some (word, false, c)
      else if d == '\\' then
        if !rest.isEmpty && startsBreak rest then some (word, true, (c.skip 1).skipBreak)
        else do
          let (e, c) ← readEscape (c.skip 1)
          readQuotedWord single fuel (e :: word) c
      else readQuotedWord single fuel (d :: word) (c.skip 1)

/-- Read a quoted scalar after its opening quote. -/
def readQuoted (single : Bool) : Nat → List Char → Cursor → Option (List Char × Cursor)
  | 0, _, _ => none
  | fuel + 1, text, c =>
    if c.atDocumentMarker || c.rest.isEmpty then none
    else do
      let (word, escaped, c) ← readQuotedWord single (fuel + 1) [] c
      let text := text ++ word.reverse
      if !escaped && c.rest.head? == some (if single then '\'' else '"') then some (text, c.skip 1)
      else do
        let (gap, c) ← readGap none (fuel + 1) { Gap.none with broken := escaped } c
        readQuoted single fuel (text ++ gap.text) c

/-! ## Block scalars -/

/-- What happens to the line ends at the end of a block. -/
inductive Chomping where
  | strip
  | clip
  | keep
deriving DecidableEq, Repr, Inhabited

/-- Read a chomping mark. -/
def readChomping (c : Cursor) : Option (Chomping × Cursor) :=
  match c.rest with
  | '+' :: _ => some (.keep, c.skip 1)
  | '-' :: _ => some (.strip, c.skip 1)
  | _ => none

/-- Read an indentation digit. The outer `none` is a zero, which is refused. -/
def readIncrement (c : Cursor) : Option (Option Nat × Cursor) :=
  match c.rest with
  | d :: _ =>
    if d == '0' then none
    else if d.isDigit then some (some (d.toNat - '0'.toNat), c.skip 1)
    else some (none, c)
  | [] => some (none, c)

/-- Read the marks of a block after its indicator, in either order. -/
def readBlockHeader (c : Cursor) : Option (Chomping × Option Nat × Cursor) :=
  match readChomping c with
  | some (chomping, c) => do
    let (increment, c) ← readIncrement c
    some (chomping, increment, c)
  | none => do
    let (increment, c) ← readIncrement c
    match increment, readChomping c with
    | some n, some (chomping, c) => some (chomping, some n, c)
    | _, _ => some (.clip, increment, c)

/-- Pass the empty lines in front of a line of a block: their line ends and the widest of their
    indentations. Without a known indent any number of spaces is passed. -/
def readBlockBreaks (indent : Option Nat) :
    Nat → Nat → List Char → Cursor → Option (List Char × Nat × Cursor)
  | 0, _, _, _ => none
  | fuel + 1, widest, breaks, c =>
    let spaces := (c.rest.takeWhile (· == ' ')).length
    let c := c.skip (match indent with
      | none => spaces
      | some n => min spaces (n - c.column))
    let widest := max widest c.column
    match c.rest with
    | d :: _ =>
      if d == '\t' && indent.all (fun n => decide (c.column < n)) then none
      else if isBreak d then
        readBlockBreaks indent fuel widest (breaks ++ c.breakText) c.skipBreak
      else some (breaks, widest, c)
    | [] => some (breaks, widest, c)

/-- Read the lines of a block. `lead` is the line end before the current line and `breaks` those of
    the empty lines after it. -/
def readBlockLines (literal : Bool) (indent : Nat) :
    Nat → List Char → List Char → List Char → Bool → Cursor →
      Option (List Char × List Char × List Char × Cursor)
  | 0, _, _, _, _, _ => none
  | fuel + 1, text, lead, breaks, leadBlank, c =>
    if c.column == indent && !c.rest.isEmpty then do
      let blank := c.rest.head?.any isSpace
      let text :=
        if !literal && lead == ['\n'] && !leadBlank && !blank then
          if breaks.isEmpty then text ++ [' '] else text ++ breaks
        else text ++ lead ++ breaks
      let line := c.rest.takeWhile fun d => !isBreak d
      let c := c.skip line.length
      let lead := c.breakText
      let (breaks, _, c) ← readBlockBreaks (some indent) (fuel + 1) 0 [] c.skipBreak
      readBlockLines literal indent fuel (text ++ line) lead breaks blank c
    else some (text, lead, breaks, c)

/-- Read a block scalar after its indicator, inside a collection indented by `parent`. -/
def readBlock (literal : Bool) (parent : Int) (fuel : Nat) (c : Cursor) :
    Option (List Char × Cursor) := do
  let (chomping, increment, c) ← readBlockHeader c
  let c := c.skipWhile isSpace
  let c := if c.rest.head? == some '#' then c.skipToBreak else c
  if !startsBreak c.rest then none
  else do
    let c := c.skipBreak
    let given := increment.map fun n => if 0 ≤ parent then parent.toNat + n else n
    let (breaks, widest, c) ← readBlockBreaks given fuel 0 [] c
    let indent := given.getD (max widest (max (parent + 1).toNat 1))
    let (text, lead, breaks, c) ← readBlockLines literal indent fuel [] [] breaks false c
    let tail := match chomping with
      | .strip => []
      | .clip => lead
      | .keep => lead ++ breaks
    some (text ++ tail, c)

end Watchpost.Yaml
