import Watchpost.Number.Binary64
import Watchpost.Text.Blank
import Watchpost.Text.Digits
import Watchpost.Text.Split

set_option autoImplicit false

/-! # Template tokens

A template is running text with variables in doubled braces, blocks in braces with percent signs and
comments in braces with hash signs. A minus sign inside a brace pair removes the blanks on its side.
`Token.ofText?` splits a template into the running text and the tokens inside braces. -/

namespace Watchpost.Template

/-- A token of a template. -/
inductive Token where
  /-- Running text. -/
  | data (text : List Char)
  | variableStart
  | variableEnd
  | blockStart
  | blockEnd
  | word (name : String)
  | text (s : String)
  | integer (n : Nat)
  | decimal (x : Binary64)
  /-- An operator or a bracket. -/
  | mark (symbol : String)
deriving DecidableEq, Repr, Inhabited

namespace Token

/-! ## Whitespace control -/

/-- What a sign next to a brace pair asks for. -/
inductive Blanks where
  | keep
  | drop
deriving DecidableEq, Repr, Inhabited

/-- What a sign asks for. -/
def Blanks.ofChar : Option Char → Blanks
  | some '-' => .drop
  | _ => .keep

/-- Take a sign off the front of a text. -/
def takeSign : List Char → Blanks × List Char
  | '-' :: rest => (.drop, rest)
  | '+' :: rest => (.keep, rest)
  | cs => (.keep, cs)

/-- A text as it follows a closing brace pair. -/
def Blanks.after (b : Blanks) (cs : List Char) : List Char :=
  match b with
  | .drop => Text.trimStart cs
  | .keep => cs

/-- A text as it stands before an opening brace pair. -/
def Blanks.before (b : Blanks) (cs : List Char) : List Char :=
  match b with
  | .drop => Text.trimEnd cs
  | .keep => cs

/-! ## Running text -/

/-- Whether a text starts with an opening brace pair of any kind. -/
def opens : List Char → Bool
  | '\x7b' :: '\x7b' :: _ => true
  | '\x7b' :: '%' :: _ => true
  | '\x7b' :: '#' :: _ => true
  | _ => false

/-- Split a text before its first opening brace pair. -/
def splitData : List Char → List Char × List Char
  | [] => ([], [])
  | c :: rest =>
    if opens (c :: rest) then ([], c :: rest)
    else
      let (front, tail) := splitData rest
      (c :: front, tail)

/-- A character that is blank in ASCII. -/
def isAsciiBlank (c : Char) : Bool :=
  c == ' ' || c == '\t' || c == '\n' || c == '\r' || c == '\x0c'

/-- Read a block of one word after its opening braces: the sign before its closing braces, and what
    follows them. -/
def wordBlock? (name : List Char) (cs : List Char) : Option (Blanks × List Char) := do
  let cs ← Text.after? name (cs.dropWhile isAsciiBlank)
  let (blanks, cs) := takeSign (cs.dropWhile isAsciiBlank)
  let cs ← Text.after? ['%', '\x7d'] cs
  some (blanks, cs)

/-- Read the inside of a raw block up to the block that ends it. -/
def rawBlock? : List Char → Option (List Char × Blanks × Blanks × List Char)
  | [] => none
  | '\x7b' :: '%' :: rest =>
    let (before, inner) := takeSign rest
    match wordBlock? "endraw".toList inner with
    | some (after, tail) => some ([], before, after, tail)
    | none => (rawBlock? ('%' :: rest)).map fun (raw, r) => ('\x7b' :: raw, r)
  | c :: rest => (rawBlock? rest).map fun (raw, r) => (c :: raw, r)

/-! ## Inside braces -/

/-- Where the reader stands in a number. -/
inductive NumberState where
  | radix
  | whole
  | fraction
  | exponent
  | exponentSign
deriving DecidableEq, Repr

/-- The state of a number after one more character, if it belongs to the number. -/
def NumberState.next? (state : NumberState) (c : Char) : Option NumberState :=
  if c == '_' then some state
  else
    match state with
    | .radix => if (Text.digitValue? 16 c).isSome then some .radix else none
    | .whole =>
      if c.isDigit then some .whole
      else if c == '.' then some .fraction
      else if c == 'e' || c == 'E' then some .exponent
      else none
    | .fraction =>
      if c.isDigit then some .fraction
      else if c == 'e' || c == 'E' then some .exponent
      else none
    | .exponent =>
      if c.isDigit then some .exponent
      else if c == '+' || c == '-' then some .exponentSign
      else none
    | .exponentSign => if c.isDigit then some .exponent else none

/-- Take the characters of a number off the front of a text. -/
def takeNumber (state : NumberState) : List Char → List Char × NumberState × List Char
  | [] => ([], state, [])
  | c :: rest =>
    match state.next? c with
    | some state =>
      let (digits, final, tail) := takeNumber state rest
      (c :: digits, final, tail)
    | none => ([], state, c :: rest)

/-- The double that a decimal with a point or an exponent writes; `none` for an unfinished one. -/
def decimalOf? (cs : List Char) : Option Binary64 :=
  let (whole, rest) := Text.digitsPrefix cs
  let (places, rest) := match rest with
    | '.' :: rest => Text.digitsPrefix rest
    | _ => ([], rest)
  let exponent : Option Int := match rest with
    | [] => some 0
    | _ :: '-' :: ds => if ds.isEmpty || !ds.all Char.isDigit then none
      else some (-(Text.decimalValue ds : Int))
    | _ :: '+' :: ds => if ds.isEmpty || !ds.all Char.isDigit then none
      else some (Text.decimalValue ds)
    | _ :: ds => if ds.isEmpty || !ds.all Char.isDigit then none
      else some (Text.decimalValue ds)
  exponent.map fun e =>
    Binary64.ofDecimal false (Text.decimalValue (whole ++ places)) (e - places.length)

/-- The base that a number announces with a zero and a letter. -/
def radixOf : List Char → Nat
  | '0' :: c :: _ =>
    if c == 'b' || c == 'B' then 2
    else if c == 'o' || c == 'O' then 8
    else if c == 'x' || c == 'X' then 16
    else 10
  | _ => 10

/-- Read a number. -/
def number? (cs : List Char) : Option (Token × List Char) := do
  let radix := radixOf cs
  let (digits, state, rest) :=
    if radix = 10 then takeNumber .whole cs else takeNumber .radix (cs.drop 2)
  if digits.getLast? == some '_' then none
  else
    let digits := digits.filter (· != '_')
    match state with
    | .radix | .whole =>
      if digits.isEmpty then none
      else do
        let n ← Text.ofDigits? radix digits
        if n < Nat.pow 2 128 then some (.integer n, rest) else none
    | _ => (decimalOf? digits).map fun x => (.decimal x, rest)

/-- The four hexadecimal digits after a `u` in an escape. -/
def hexUnit? : List Char → Option (Nat × List Char)
  | a :: b :: c :: d :: rest => (Text.ofDigits? 16 [a, b, c, d]).map (·, rest)
  | _ => none

/-- The inside of a string literal with its escapes resolved. The fuel is the number of its
    characters. -/
def unescape? : Nat → List Char → Option (List Char)
  | _, [] => some []
  | 0, _ => none
  | fuel + 1, '\\' :: 'u' :: rest => do
    let (unit, rest) ← hexUnit? rest
    if 0xD800 ≤ unit ∧ unit < 0xE000 then
      match rest with
      | '\\' :: 'u' :: rest => do
        let (low, rest) ← hexUnit? rest
        if unit < 0xDC00 ∧ 0xDC00 ≤ low ∧ low < 0xE000 then
          (unescape? fuel rest).map
            (Char.ofNat (0x10000 + (unit - 0xD800) * 0x400 + (low - 0xDC00)) :: ·)
        else none
      | _ => none
    else (unescape? fuel rest).map (Char.ofNat unit :: ·)
  | fuel + 1, '\\' :: c :: rest => do
    let d ← [('"', '"'), ('\\', '\\'), ('/', '/'), ('\'', '\''), ('b', '\x08'), ('f', '\x0c'),
      ('n', '\n'), ('r', '\r'), ('t', '\t')].lookup c
    (unescape? fuel rest).map (d :: ·)
  | _, ['\\'] => none
  | fuel + 1, c :: rest => (unescape? fuel rest).map (c :: ·)

/-- Split a text at the first quote that is not escaped. -/
def takeQuoted (quote : Char) : List Char → Option (List Char × List Char)
  | [] => none
  | '\\' :: c :: rest => (takeQuoted quote rest).map fun (s, r) => ('\\' :: c :: s, r)
  | c :: rest =>
    if c = quote then some ([], rest) else (takeQuoted quote rest).map fun (s, r) => (c :: s, r)

/-- The operators of two characters. -/
def longMarks : List (List Char) :=
  ["//", "**", "==", "!=", ">=", "<="].map String.toList

/-- The operators and brackets of one character. -/
def shortMarks : List Char :=
  "+-*/%.,:~=><|()[]\x7b\x7d".toList

/-- Read a word. -/
def word? (cs : List Char) : Option (Token × List Char) :=
  match cs with
  | c :: _ =>
    if c.isAlpha || c == '_' then
      let isPart (d : Char) : Bool := d.isAlphanum || d == '_'
      some (.word (String.ofList (cs.takeWhile isPart)), cs.dropWhile isPart)
    else none
  | [] => none

/-- Read one token inside braces. -/
def inner? (cs : List Char) : Option (Token × List Char) :=
  match cs with
  | [] => none
  | c :: rest =>
    if longMarks.contains (cs.take 2) then some (.mark (String.ofList (cs.take 2)), cs.drop 2)
    else if shortMarks.contains c then some (.mark (String.singleton c), rest)
    else if c == '"' || c == '\'' then do
      let (body, rest) ← takeQuoted c rest
      let s ← unescape? body.length body
      some (.text (String.ofList s), rest)
    else if c.isDigit then number? cs
    else word? cs

/-- Read the end of a variable or a block, with or without a sign. -/
def closing? (last : List Char) (cs : List Char) : Option (Blanks × List Char) :=
  let (blanks, rest) := takeSign cs
  match Text.after? last rest with
  | some tail => some (blanks, tail)
  | none => none

/-- How many more brackets a token opens than it closes. -/
def balance : Token → Int
  | .mark "(" => 1
  | .mark "[" => 1
  | .mark "\x7b" => 1
  | .mark ")" => -1
  | .mark "]" => -1
  | .mark "\x7d" => -1
  | _ => 0

/-! ## A whole template -/

mutual

/-- Read running text and what follows it. -/
def outside : Nat → List Char → Option (List Token)
  | 0, _ => none
  | fuel + 1, cs =>
    match cs with
    | [] => some []
    | '\x7b' :: '#' :: rest =>
      match Text.splitAtFirst ['#', '\x7d'] rest with
      | some (body, tail) => outside fuel ((Blanks.ofChar body.getLast?).after tail)
      | none => none
    | '\x7b' :: '\x7b' :: rest =>
      (inside fuel ['\x7d', '\x7d'] .variableEnd 0 (takeSign rest).2).map (.variableStart :: ·)
    | '\x7b' :: '%' :: rest =>
      match wordBlock? "raw".toList (takeSign rest).2 with
      | some (first, body) =>
        match rawBlock? body with
        | some (raw, before, after, tail) =>
          (outside fuel (after.after tail)).map (.data (before.before (first.after raw)) :: ·)
        | none => none
      | none => (inside fuel ['%', '\x7d'] .blockEnd 0 (takeSign rest).2).map (.blockStart :: ·)
    | _ =>
      let (front, tail) := splitData cs
      let front := (Blanks.ofChar tail[2]?).before front
      if front.isEmpty then outside fuel tail else (outside fuel tail).map (.data front :: ·)

/-- Read tokens inside braces up to the closing pair `last`, which ends no expression while brackets
    are open. -/
def inside : Nat → List Char → Token → Int → List Char → Option (List Token)
  | 0, _, _, _, _ => none
  | fuel + 1, last, token, depth, cs =>
    let cs := cs.dropWhile isAsciiBlank
    let closed := if depth == 0 then closing? last cs else none
    match closed with
    | some (blanks, tail) => (outside fuel (blanks.after tail)).map (token :: ·)
    | none => do
      let (t, rest) ← inner? cs
      (inside fuel last token (depth + t.balance) rest).map (t :: ·)

end

/-- A template without the line end at its end. -/
def dropLastBreak (cs : List Char) : List Char :=
  let cs := if cs.getLast? == some '\n' then cs.dropLast else cs
  if cs.getLast? == some '\r' then cs.dropLast else cs

/-- The tokens of a template. -/
def ofText? (source : String) : Option (List Token) :=
  let cs := dropLastBreak source.toList
  outside (2 * cs.length + 2) cs

end Token

end Watchpost.Template
