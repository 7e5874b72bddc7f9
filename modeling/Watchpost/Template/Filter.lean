import Watchpost.Json.Compact
import Watchpost.Template.Operator
import Watchpost.Text.Blank
import Watchpost.Text.Case

set_option autoImplicit false

/-! # Filters and tests

A filter turns a value into another, a test turns it into a truth value; both may take arguments.
A name that is not known and arguments that do not fit have no value. -/

namespace Watchpost.Template

/-- The arguments of a call. -/
structure Args where
  positional : List Value
  named : List (String × Value) := []
deriving Inhabited

namespace Args

/-- An optional argument; `none` counts as left out. -/
def optional : Option Value → Option Value
  | some .undefined | some .none => none
  | v => v

/-- A named argument that is a truth value. -/
def flag? (args : Args) (name : String) (standard : Bool) : Option Bool :=
  match optional (args.named.lookup name) with
  | none => some standard
  | some (.bool b) => some b
  | some _ => none

/-- Whether all named arguments are among the given ones. -/
def namesWithin (args : Args) (names : List String) : Bool :=
  args.named.all fun a => names.contains a.1

end Args

/-! ## Escaping -/

/-- How a character is written in HTML. -/
def htmlChar (c : Char) : List Char :=
  match c with
  | '<' => "&lt;".toList
  | '>' => "&gt;".toList
  | '&' => "&amp;".toList
  | '"' => "&quot;".toList
  | '\'' => "&#x27;".toList
  | '/' => "&#x2f;".toList
  | _ => [c]

/-- A value as it is written in HTML. -/
def Value.html (v : Value) : List Char :=
  match v with
  | .text s true => s.toList
  | .undefined | .none | .bool _ | .integer _ | .decimal _ => v.chars
  | _ => v.chars.flatMap htmlChar

/-- The inside of a JSON string literal that writes a text. -/
def jsonEscape (s : String) : String :=
  String.ofList (Json.escape s.toList)

/-! ## Filters on texts -/

/-- Whether a character is a punctuation mark of ASCII. -/
def isPunctuation (c : Char) : Bool :=
  let n := c.toNat
  (0x21 ≤ n && n ≤ 0x2F) || (0x3A ≤ n && n ≤ 0x40) || (0x5B ≤ n && n ≤ 0x60) ||
    (0x7B ≤ n && n ≤ 0x7E)

/-- A text with a capital at the start of every word. -/
def titleCase : Bool → List Char → List Char
  | _, [] => []
  | start, c :: rest =>
    if isPunctuation c || Text.isBlank c then c :: titleCase true rest
    else (if start then Text.upperChar c else Text.lowerChar c) ++ titleCase false rest

/-- A text with a capital at its start. -/
def capitalCase : List Char → List Char
  | [] => []
  | c :: rest => Text.upperChar c ++ (Text.lower (String.ofList rest)).toList

/-- A text with every occurrence of another replaced. The fuel is the length of the text. -/
def replaceAll (old new : List Char) : Nat → List Char → List Char
  | 0, cs => cs
  | fuel + 1, cs =>
    match Text.splitAtFirst old cs with
    | some (before, after) => before ++ new ++ replaceAll old new fuel after
    | none => cs

/-- A text with another put before every character and at the end. -/
def interleave (new : List Char) (cs : List Char) : List Char :=
  new ++ cs.flatMap (· :: new)

/-- The parts of a text between the occurrences of another, at most `count + 1` of them. -/
def splitAll (mark : List Char) : Nat → List Char → List (List Char)
  | 0, cs => [cs]
  | count + 1, cs =>
    match Text.splitAtFirst mark cs with
    | some (before, after) => before :: splitAll mark count after
    | none => [cs]

/-- The words of a text, at most `count + 1` of them; the last one keeps the blanks within it. -/
def splitWords : Nat → List Char → List (List Char)
  | 0, cs => let rest := Text.trim cs; if rest.isEmpty then [] else [rest]
  | count + 1, cs =>
    let rest := Text.trimStart cs
    if rest.isEmpty then []
    else
      rest.takeWhile (!Text.isBlank ·) :: splitWords count (rest.dropWhile (!Text.isBlank ·))

/-- A text without a line end at its end. -/
def dropBreak (cs : List Char) : List Char :=
  let cs := if cs.getLast? == some '\n' then cs.dropLast else cs
  if cs.getLast? == some '\r' then cs.dropLast else cs

/-- A text with its lines moved to the right. -/
def indent (width : Nat) (first blank : Bool) (cs : List Char) : List Char :=
  let margin := List.replicate width ' '
  let move (line : List Char) : List Char :=
    if line.isEmpty && !blank then line else margin ++ line
  let lines := Text.split '\n' (dropBreak cs)
  let moved := match lines with
    | [] => []
    | l :: rest => (if first then move l else l) :: rest.map move
  dropBreak (Text.join ['\n'] moved ++ ['\n'])

/-- The lines of a text without their ends. -/
def lines (cs : List Char) : List (List Char) :=
  let parts := Text.split '\n' cs
  let parts := if parts.getLast? == some [] then parts.dropLast else parts
  parts.map fun l => if l.getLast? == some '\r' then l.dropLast else l

/-- The double that a text writes. -/
def doubleOf? (cs : List Char) : Option Binary64 := do
  let (negative, cs) := match cs with
    | '-' :: rest => (true, rest)
    | '+' :: rest => (false, rest)
    | _ => (false, cs)
  let (whole, rest) := Text.digitsPrefix cs
  let (places, rest) := match rest with
    | '.' :: rest => Text.digitsPrefix rest
    | _ => ([], rest)
  guard (!(whole ++ places).isEmpty)
  let exponent ← match rest with
    | [] => some (0 : Int)
    | e :: rest =>
      if e == 'e' || e == 'E' then
        match rest with
        | '-' :: ds => (Text.readUnsigned? ds).map fun n => -(n : Int)
        | ds => (Text.readUnsigned? ds).map fun n => (n : Int)
      else none
  return Binary64.ofDecimal negative (Text.decimalValue (whole ++ places))
    (exponent - places.length)

/-- The integer that a text writes. -/
def intOf? (cs : List Char) : Option Int :=
  match cs with
  | '-' :: ds =>
    if ds.head? == some '+' then none else (Text.readUnsigned? ds).map fun n => -(n : Int)
  | ds => (Text.readUnsigned? ds).map fun n => (n : Int)

/-! ## Filters on lists -/

/-- The order of two values; letters of ASCII count as equal to their capitals unless asked. -/
def orderBy (caseSensitive : Bool) (a b : Value) : Ordering :=
  match a, b with
  | .text s _, .text t _ =>
    if caseSensitive then compare s t else compare s.toLower t.toLower
  | _, _ => Value.order a b

/-- A list in order by a key; equal items keep their order. -/
def sortBy {α : Type} (key : α → Value) (caseSensitive : Bool) (items : List α) : List α :=
  items.mergeSort fun a b => orderBy caseSensitive (key a) (key b) != .gt

/-- The value at the end of a path of attributes between points. -/
def atPath? (path : String) (v : Value) : Option Value :=
  (Text.splitString '.' path).foldlM (fun v key =>
    match v with
    | .undefined => none
    | v =>
      let part := match intOf? key.toList with
        | some i => v.part? (.integer i)
        | none => v.part? (.ofString key)
      some (part.getD .undefined)) v

/-- A list cut into parts of a length, the last one filled up where asked. -/
def batch (size : Nat) (fill : Option Value) : Nat → List Value → List Value
  | 0, _ => []
  | fuel + 1, items =>
    if items.isEmpty then []
    else
      let part := items.take size
      let rest := match fill with
        | some v => List.replicate (size - part.length) v
        | none => []
      .list (part ++ rest) :: batch size fill fuel (items.drop size)

/-- A list cut into a number of parts of nearly equal length. -/
def parts (count : Nat) (fill : Option Value) (items : List Value) : List Value :=
  let each := items.length / count
  let longer := items.length % count
  (List.range count).map fun i =>
    let start := i * each + min i longer
    let stop := (i + 1) * each + min (i + 1) longer
    let part := (items.take stop).drop start
    match fill with
    | some v => .list (if longer ≤ i then part ++ [v] else part)
    | none => .list part

/-- The items that are not equal to an earlier one. -/
def unique (caseSensitive : Bool) : List (Value × Value) → List Value → List Value
  | [], _ => []
  | (key, v) :: rest, seen =>
    if seen.any fun k => orderBy caseSensitive k key == .eq then unique caseSensitive rest seen
    else v :: unique caseSensitive rest (key :: seen)

/-- The best of a list by an order, the first of equals. -/
def best (better : Value → Value → Bool) : List Value → Value
  | [] => .undefined
  | v :: rest => rest.foldl (fun b w => if better w b then w else b) v

/-! ## Tests -/

/-- Whether a character is a small letter. -/
def isSmall (c : Char) : Bool :=
  c.isLower || (127 < c.toNat && Text.upperChar c != [c] && Text.lowerChar c == [c])

/-- Whether a character is a capital letter. -/
def isCapital (c : Char) : Bool :=
  c.isUpper || (127 < c.toNat && Text.lowerChar c != [c])

/-- The names of tests that compare, with their operators. -/
def comparisons : List (String × BinaryOp) :=
  [("eq", .eq), ("equalto", .eq), ("==", .eq), ("ne", .ne), ("!=", .ne), ("lt", .lt),
   ("lessthan", .lt), ("<", .lt), ("le", .le), ("<=", .le), ("gt", .gt), ("greaterthan", .gt),
   (">", .gt), ("ge", .ge), (">=", .ge), ("in", .isIn)]

/-- The names of the filters. -/
def filterNames : List String :=
  ["lower", "upper", "json_escape", "safe", "escape", "e", "title", "capitalize", "replace",
   "length", "count", "dictsort", "items", "reverse", "trim", "join", "split", "lines", "default",
   "d", "round", "abs", "int", "float", "attr", "first", "last", "min", "max", "sum", "sort",
   "list", "string", "bool", "batch", "slice", "indent", "select", "reject", "selectattr",
   "rejectattr", "map", "groupby", "unique", "chain", "zip"]

/-- The names of the tests without arguments. -/
def plainTestNames : List String :=
  ["undefined", "defined", "none", "safe", "escaped", "odd", "even", "number", "integer", "float",
   "string", "sequence", "iterable", "mapping", "boolean", "true", "false", "lower", "upper",
   "filter", "test"]

/-- The names of the tests with an argument, apart from comparisons. -/
def argumentTestNames : List String :=
  ["divisibleby", "startingwith", "endingwith", "sameas"]

/-- The answer of a test; `none` where there is no such test or it does not fit. -/
def test? (name : String) (v : Value) (args : Args) : Option Bool :=
  if !args.named.isEmpty then none
  else
    match args.positional with
    | [] =>
      match name with
      | "undefined" => some v.isUndefined
      | "defined" => some !v.isUndefined
      | "none" => some (match v with | .none => true | _ => false)
      | "safe" | "escaped" => some (match v with | .text _ safe => safe | _ => false)
      | "odd" => some (match v.asInt? with | some n => n % 2 != 0 | none => false)
      | "even" => some (match v.asInt? with | some n => n % 2 == 0 | none => false)
      | "number" => some v.isNumber
      | "integer" => some (match v with | .integer _ => true | _ => false)
      | "float" => some (match v with | .decimal _ => true | _ => false)
      | "string" => some v.asText?.isSome
      | "sequence" => some (match v with | .list _ => true | _ => false)
      | "iterable" => some v.items?.isSome
      | "mapping" => some (v.rank == 7)
      | "boolean" => some (match v with | .bool _ => true | _ => false)
      | "true" => some (match v with | .bool b => b | _ => false)
      | "false" => some (match v with | .bool b => !b | _ => false)
      | "lower" => v.asText?.map fun s => s.toList.all isSmall
      | "upper" => v.asText?.map fun s => s.toList.all isCapital
      | "filter" => v.asText?.map filterNames.contains
      | "test" => v.asText?.map fun s =>
          plainTestNames.contains s || argumentTestNames.contains s || (comparisons.lookup s).isSome
      | _ => none
    | [w] =>
      match comparisons.lookup name with
      | some op => (op.result? v w).map Value.isTrue
      | none =>
        match name with
        | "divisibleby" => some <|
            match Value.common Value.asDouble? v w with
            | .integers m n => n != 0 && m % n == 0
            | .doubles x y => (x.remainder y).equals Binary64.zero
            | _ => false
        | "startingwith" => some (Text.startsWith w.chars v.chars)
        | "endingwith" => some (w.chars.isSuffixOf v.chars)
        | "sameas" => some (v.rank == w.rank && Value.same v w)
        | _ => none
    | _ => none

/-! ## Filters -/

/-- A count as an argument. -/
def countOf? (v : Value) : Option Nat :=
  v.asInt?.bind fun n => if n < 0 then none else some n.toNat

/-- The entries of a map. -/
def entriesOf? : Value → Option (List (Value × Value))
  | .map entries => some entries
  | .named args => some (args.map fun a => (.ofString a.1, a.2))
  | _ => none

/-- The lists of keys and values of entries. -/
def pairs (entries : List (Value × Value)) : Value :=
  .list (entries.map fun e => .list [e.1, e.2])

/-- The sum of a list. -/
def total? (items : List Value) : Option Value :=
  items.foldlM (fun sum v => Value.add? sum v) (.integer 0)

/-- Filters that take named arguments. -/
def namedFilter? (name : String) (v : Value) (args : Args) : Option Value :=
  match name, args.positional with
  | "dictsort", [] => do
    guard (args.namesWithin ["by", "case_sensitive", "reverse"])
    let entries ← entriesOf? v
    let byValue ← match Args.optional (args.named.lookup "by") with
      | none => some false
      | some (.text "key" _) => some false
      | some (.text "value" _) => some true
      | some _ => none
    let sensitive ← args.flag? "case_sensitive" false
    let reversed ← args.flag? "reverse" false
    let sorted := sortBy (fun e => if byValue then e.2 else e.1) sensitive entries
    return pairs (if reversed then sorted.reverse else sorted)
  | "sort", [] => do
    guard (args.namesWithin ["attribute", "case_sensitive", "reverse"])
    let items ← v.items?
    let sensitive ← args.flag? "case_sensitive" false
    let reversed ← args.flag? "reverse" false
    let key ← match Args.optional (args.named.lookup "attribute") with
      | none => some fun w => w
      | some (.text path _) => some fun w => (atPath? path w).getD .undefined
      | some _ => none
    let sorted := sortBy key sensitive items
    return .list (if reversed then sorted.reverse else sorted)
  | "unique", [] => do
    guard (args.namesWithin ["attribute", "case_sensitive"])
    let items ← v.items?
    let sensitive ← args.flag? "case_sensitive" false
    let keyed ← match Args.optional (args.named.lookup "attribute") with
      | none => some (items.map fun w => (w, w))
      | some (.text path _) => items.mapM fun w => (atPath? path w).map (·, w)
      | some _ => none
    return .list (unique sensitive keyed [])
  | "groupby", positional => do
    guard (args.namesWithin ["attribute", "default", "case_sensitive"])
    let path ← match positional, args.named.lookup "attribute" with
      | [.text path _], none => some path
      | [], some (.text path _) => some path
      | _, _ => none
    let sensitive ← args.flag? "case_sensitive" false
    let standard := (args.named.lookup "default").getD .undefined
    let keyed ← (← v.items?).mapM fun w => (atPath? path w).map fun k =>
      ((if k.isUndefined then standard else k), w)
    let groups := (sortBy (·.1) sensitive keyed).splitBy fun a b =>
      orderBy sensitive a.1 b.1 == .eq
    return .list (groups.map fun g =>
      .list [(g.head?.map (·.1)).getD .undefined, .list (g.map (·.2))])
  | _, _ => none

/-- Filters that take positional arguments only. -/
def plainFilter? (name : String) (v : Value) (args : List Value) : Option Value :=
  match name, args with
  | "lower", [] => some (.ofString (Text.lower v.toText))
  | "upper", [] => some (.ofString (Text.upper v.toText))
  | "json_escape", [] => some (.ofString (jsonEscape v.toText))
  | "safe", [] => some (.text v.toText true)
  | "escape", [] | "e", [] => some (.text (String.ofList v.html) true)
  | "title", [] => some (.ofChars (titleCase true v.chars))
  | "capitalize", [] => some (.ofChars (capitalCase v.chars))
  | "replace", [old, new] =>
    some (.ofChars (if old.chars.isEmpty then interleave new.chars v.chars
      else replaceAll old.chars new.chars v.chars.length v.chars))
  | "length", [] | "count", [] => v.size?.map .ofNat
  | "items", [] => (entriesOf? v).map pairs
  | "reverse", [] =>
    match v with
    | .text s _ => some (.ofChars s.toList.reverse)
    | .undefined | .none => some v
    | _ => v.items?.map fun items => .list items.reverse
  | "trim", [] => some (.ofChars (Text.trim v.chars))
  | "trim", [marks] =>
    match Args.optional (some marks) with
    | none => some (.ofChars (Text.trim v.chars))
    | some marks =>
      let drop (c : Char) : Bool := marks.chars.contains c
      some (.ofChars (Text.dropEndWhile drop (v.chars.dropWhile drop)))
  | "join", _ => do
    let between ← match args with
      | [] => some []
      | [w] => some (((Args.optional (some w)).map Value.chars).getD [])
      | _ => none
    let items ← v.items?
    return .ofChars (items.foldl (fun out w =>
      (if out.isEmpty then out else out ++ between) ++ w.chars) [])
  | "split", _ => do
    let s ← v.asText?
    let (mark, limit) ← match args with
      | [] => some (none, none)
      | [mark] => some (Args.optional (some mark), none)
      | [mark, limit] =>
        let limit : Option (Option Nat) := match Args.optional (some limit) with
          | none => some none
          | some n => n.asInt?.map fun (k : Int) => if k < 0 then none else some k.toNat
        limit.map fun limit => (Args.optional (some mark), limit)
      | _ => none
    let count := limit.getD s.length
    match mark with
    | none => return .list ((splitWords count s.toList).map .ofChars)
    | some mark =>
      let mark ← mark.asText?
      if mark.isEmpty then
        return .list ((([] : List Char) :: s.toList.map ([·]) ++ [[]]).map .ofChars)
      else return .list ((splitAll mark.toList count s.toList).map .ofChars)
  | "lines", [] => v.asText?.map fun s => .list ((lines s.toList).map .ofChars)
  | "default", _ | "d", _ => do
    let (other, lax) ← match args with
      | [] => some (Value.ofString "", false)
      | [w] => some (w, false)
      | [w, .bool b] => some (w, b)
      | _ => none
    return if v.isUndefined || (lax && !v.isTrue) then other else v
  | "round", _ => do
    let places ← match args with
      | [] => some 0
      | [w] => match Args.optional (some w) with
        | none => some 0
        | some w => w.asInt?
      | _ => none
    match v with
    | .integer _ => some v
    | .decimal x =>
      let scale := if 0 ≤ places then Binary64.ofDecimal false 1 places
        else (Binary64.ofNat 1).dividedBy (Binary64.ofDecimal false 1 (-places))
      some (.decimal ((scale.times x).rounded.dividedBy scale))
    | _ => none
  | "abs", [] =>
    match v with
    | .integer n => Value.ofInt128? n.natAbs
    | .decimal x => some (.decimal (if x.isNegative then x.neg else x))
    | _ => none
  | "int", [] =>
    match v with
    | .undefined | .none => some (.integer 0)
    | .bool b => some (.integer (if b then 1 else 0))
    | .integer _ => some v
    | .decimal x => some (.integer (if x.isFinite then x.truncate else 0))
    | .text s _ =>
      match intOf? s.toList with
      | some n => some (.integer n)
      | none => (doubleOf? s.toList).map fun x => .integer x.truncate
    | _ => none
  | "float", [] =>
    match v with
    | .undefined | .none => some (.decimal Binary64.zero)
    | .text s _ => (doubleOf? s.toList).map .decimal
    | _ => v.asDouble?.map .decimal
  | "attr", [key] => if v.isUndefined then none else some ((v.part? key).getD .undefined)
  | "first", [] | "last", [] =>
    if v.isUndefined || v.rank == 1 then none
    else v.items?.map fun items =>
      ((if name == "first" then items.head? else items.getLast?).getD .undefined)
  | "min", [] => v.items?.map (best fun a b => Value.order a b == .lt)
  | "max", [] => v.items?.map (best fun a b => Value.order a b != .lt)
  | "sum", [] => v.items?.bind total?
  | "list", [] => v.items?.map .list
  | "string", [] =>
    match v with
    | .text _ _ => some v
    | _ => some (.ofChars v.chars)
  | "bool", [] => some (.bool v.isTrue)
  | "batch", count :: more => do
    let fill ← match more with
      | [] => some none
      | [w] => some (Args.optional (some w))
      | _ => none
    let size ← countOf? count
    guard (size != 0)
    let items ← v.items?
    return .list (batch size fill items.length items)
  | "slice", count :: more => do
    let fill ← match more with
      | [] => some none
      | [w] => some (Args.optional (some w))
      | _ => none
    let size ← countOf? count
    guard (size != 0)
    return .list (parts size fill (← v.items?))
  | "indent", width :: more => do
    let flag (i : Nat) : Option Bool :=
      match more[i]?.bind fun w => Args.optional (some w) with
      | none => some false
      | some (.bool b) => some b
      | some _ => none
    guard (more.length ≤ 2)
    return .ofChars (indent (← countOf? width) (← flag 0) (← flag 1) v.chars)
  | "chain", others => do
    let items ← (v :: others).mapM Value.items?
    return .list items.flatten
  | "zip", others => do
    let columns ← (v :: others).mapM Value.items?
    let size := (columns.map List.length).min?.getD 0
    return .list ((List.range size).map fun i =>
      .list (columns.map fun c => c.getD i .undefined))
  | _, _ => none

/-- Keep or drop the items of a list by a test; without a test, by whether they are true. -/
def select? (keep : Bool) (key : Value → Option Value) (rule : List Value) (v : Value) :
    Option Value := do
  let holds ← match rule with
    | [] => some fun w => some (Value.isTrue w)
    | .text name _ :: args => some fun w => test? name w ⟨args, []⟩
    | _ => none
  let answers ← (← v.items?).mapM fun w => do
    let k ← key w
    return (w, ← holds k)
  return .list ((answers.filter fun a => a.2 == keep).map (·.1))

/-- The value of a filter with positional and named arguments. -/
def filterWith? : String → Value → List Value → List (String × Value) → Option Value
  | "select", v, rule, [] => select? true some rule v
  | "reject", v, rule, [] => select? false some rule v
  | "selectattr", v, .text path _ :: rule, [] => select? true (atPath? path) rule v
  | "rejectattr", v, .text path _ :: rule, [] => select? false (atPath? path) rule v
  | "map", v, .text inner _ :: rest, [] => do
    return .list (← (← v.items?).mapM fun w => filterWith? inner w rest [])
  | "map", v, [], named => do
    guard (Args.namesWithin ⟨[], named⟩ ["attribute", "default"])
    let standard := (named.lookup "default").getD .undefined
    let found ← (← v.items?).mapM fun w => do
      let part ← match ← named.lookup "attribute" with
        | .text path _ => atPath? path w
        | key => if w.isUndefined then none else some ((w.part? key).getD .undefined)
      return if part.isUndefined then standard else part
    return .list found
  | name, v, args, [] => (plainFilter? name v args).or (namedFilter? name v ⟨args, []⟩)
  | name, v, args, named => namedFilter? name v ⟨args, named⟩

/-- The value of a filter; `none` where there is no such filter or it does not fit. -/
def filter? (name : String) (v : Value) (args : Args) : Option Value :=
  filterWith? name v args.positional args.named

end Watchpost.Template
