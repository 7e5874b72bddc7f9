import Watchpost.Template.Basic
import Watchpost.Template.Token

set_option autoImplicit false

/-! # The grammar of templates

`Template.ofText?` reads a template into its statements. Operators have nine levels of precedence:
`or`, `and`, `not`, comparisons, sums, joins with a tilde, products, powers and signs, from the
loosest to the tightest. -/

namespace Watchpost.Template

/-! ## Reading tokens -/

/-- What is left to read, and the names of the blocks seen so far. -/
structure Cursor where
  tokens : List Token
  blocks : List String := []

/-- Reading can fail and moves the cursor. -/
abbrev Parse := StateT Cursor Option

namespace Parse

/-- The next token. -/
def peek? : Parse (Option Token) := do return (← get).tokens.head?

/-- Take the next token. -/
def next : Parse Token := do
  match (← get).tokens with
  | t :: rest =>
    modify fun c => { c with tokens := rest }
    return t
  | [] => failure

/-- Take the next token if it is `t`. -/
def accept (t : Token) : Parse Bool := do
  if (← peek?) == some t then
    let _ ← next
    return true
  else return false

/-- Take the next token, which has to be `t`. -/
def expect (t : Token) : Parse Unit := do
  guard ((← next) == t)

/-- Take a name. -/
def name : Parse String := do
  match ← next with
  | .word s => return s
  | _ => failure

/-- Names that cannot be assigned to. -/
def reserved : List String :=
  ["true", "True", "false", "False", "none", "None", "loop", "self"]

/-- Take a name that can be assigned to. -/
def freeName : Parse String := do
  let s ← name
  guard (!reserved.contains s)
  return s

/-! ## Expressions -/

/-- The operators of a level that stand between two operands. -/
def binaryOp? (level : Nat) : Token → Option BinaryOp
  | .word "or" => if level = 0 then some .or else none
  | .word "and" => if level = 1 then some .and else none
  | .mark "==" => if level = 3 then some .eq else none
  | .mark "!=" => if level = 3 then some .ne else none
  | .mark "<" => if level = 3 then some .lt else none
  | .mark "<=" => if level = 3 then some .le else none
  | .mark ">" => if level = 3 then some .gt else none
  | .mark ">=" => if level = 3 then some .ge else none
  | .word "in" => if level = 3 then some .isIn else none
  | .mark "+" => if level = 4 then some .add else none
  | .mark "-" => if level = 4 then some .sub else none
  | .mark "~" => if level = 5 then some .concat else none
  | .mark "*" => if level = 6 then some .mul else none
  | .mark "/" => if level = 6 then some .div else none
  | .mark "//" => if level = 6 then some .floorDiv else none
  | .mark "%" => if level = 6 then some .rem else none
  | .mark "**" => if level = 7 then some .pow else none
  | _ => none

/-- Whether a token starts the argument that a test may take without parentheses. -/
def startsTestArgument : Option Token → Bool
  | some (.word s) => !(["and", "or", "else", "is"].contains s)
  | some (.text _) | some (.integer _) | some (.decimal _) => true
  | some (.mark s) => ["+", "-", "[", "\x7b"].contains s
  | _ => false

mutual

/-- Read an expression. -/
def expr : Nat → Parse Expr
  | 0 => failure
  | fuel + 1 => do conditions fuel (← operation fuel 0)

/-- Read the conditions that follow an expression. -/
def conditions : Nat → Expr → Parse Expr
  | 0, _ => failure
  | fuel + 1, yes => do
    if ← accept (.word "if") then
      let test ← operation fuel 0
      let no ← if ← accept (.word "else") then some <$> expr fuel else pure none
      conditions fuel (.choose test yes no)
    else return yes

/-- Read an expression of a level of precedence or tighter. -/
def operation : Nat → Nat → Parse Expr
  | 0, _ => failure
  | fuel + 1, level => do
    if level = 2 then
      if ← accept (.word "not") then .unary .not <$> operation fuel 2
      else operation fuel 3
    else if level = 8 then filters fuel (← suffixes fuel (← signed fuel))
    else operands fuel level (← operation fuel (level + 1))

/-- Read the operators of a level and their right operands. -/
def operands : Nat → Nat → Expr → Parse Expr
  | 0, _, _ => failure
  | fuel + 1, level, left => do
    let t ← peek?
    match t.bind (binaryOp? level) with
    | some op =>
      let _ ← next
      let right ← operation fuel (level + 1)
      operands fuel level (.binary op left right)
    | none =>
      if level = 3 && t == some (.word "not") then
        let _ ← next
        expect (.word "in")
        let right ← operation fuel (level + 1)
        operands fuel level (.unary .not (.binary .isIn left right))
      else return left

/-- Read an expression with its sign. -/
def signed : Nat → Parse Expr
  | 0 => failure
  | fuel + 1 => do
    if ← accept (.mark "-") then .unary .neg <$> signed fuel
    else primary fuel

/-- Read an expression that no operator splits. -/
def primary : Nat → Parse Expr
  | 0 => failure
  | fuel + 1 => do
    match ← next with
    | .word "true" | .word "True" => return .bool true
    | .word "false" | .word "False" => return .bool false
    | .word "none" | .word "None" => return .none
    | .word s => return .var s
    | .text s => return .text s
    | .integer n => return .integer n
    | .decimal x => return .decimal x
    | .mark "(" =>
      if ← accept (.mark ")") then return .list []
      let first ← expr fuel
      if (← peek?) == some (.mark ",") then
        return .list (first :: (← moreItems fuel ")"))
      expect (.mark ")")
      return first
    | .mark "[" =>
      if ← accept (.mark "]") then return .list []
      let first ← expr fuel
      return .list (first :: (← moreItems fuel "]"))
    | .mark "\x7b" =>
      if ← accept (.mark "\x7d") then return .map []
      let first ← entry fuel
      return .map (first :: (← moreEntries fuel))
    | _ => failure

/-- Read the items after the first one, up to the closing bracket. -/
def moreItems : Nat → String → Parse (List Expr)
  | 0, _ => failure
  | fuel + 1, last => do
    if ← accept (.mark last) then return []
    expect (.mark ",")
    if ← accept (.mark last) then return []
    let item ← expr fuel
    return item :: (← moreItems fuel last)

/-- Read a key and its value. -/
def entry : Nat → Parse (Expr × Expr)
  | 0 => failure
  | fuel + 1 => do
    let key ← expr fuel
    expect (.mark ":")
    return (key, ← expr fuel)

/-- Read the entries of a map after the first one. -/
def moreEntries : Nat → Parse (List (Expr × Expr))
  | 0 => failure
  | fuel + 1 => do
    if ← accept (.mark "\x7d") then return []
    expect (.mark ",")
    if ← accept (.mark "\x7d") then return []
    let first ← entry fuel
    return first :: (← moreEntries fuel)

/-- Read the attributes, subscripts and calls that follow an expression. -/
def suffixes : Nat → Expr → Parse Expr
  | 0, _ => failure
  | fuel + 1, e => do
    match ← peek? with
    | some (.mark ".") =>
      let _ ← next
      match ← next with
      | .word s => suffixes fuel (.attr e s)
      | .integer n => suffixes fuel (.item e (.integer n))
      | _ => failure
    | some (.mark "[") =>
      let _ ← next
      suffixes fuel (← subscript fuel e)
    | some (.mark "(") => suffixes fuel (.call e (← arguments fuel))
    | _ => return e

/-- Read a subscript or a slice after its opening bracket. -/
def subscript : Nat → Expr → Parse Expr
  | 0, _ => failure
  | fuel + 1, e => do
    let start ← if (← peek?) == some (.mark ":") then pure none else some <$> expr fuel
    if ← accept (.mark ":") then
      let bare := [some (.mark "]"), some (Token.mark ":")].contains (← peek?)
      let stop ← if bare then pure none else some <$> expr fuel
      let step ←
        if ← accept (.mark ":") then
          if (← peek?) == some (.mark "]") then pure none else some <$> expr fuel
        else pure none
      expect (.mark "]")
      return .slice e start stop step
    else
      expect (.mark "]")
      match start with
      | some index => return .item e index
      | none => failure

/-- Read the filters and tests that follow an expression. -/
def filters : Nat → Expr → Parse Expr
  | 0, _ => failure
  | fuel + 1, e => do
    if ← accept (.mark "|") then
      let f ← name
      filters fuel (.filter f (some e) (← optionalArguments fuel))
    else if ← accept (.word "is") then
      let negated ← accept (.word "not")
      let f ← name
      let t ← peek?
      let args ←
        if t == some (.mark "(") then arguments fuel
        else if startsTestArgument t then do
          let argument ← suffixes fuel (← signed fuel)
          pure [.positional argument]
        else pure []
      let test := Expr.test f e args
      filters fuel (if negated then .unary .not test else test)
    else return e

/-- Read the arguments of a filter, if any. -/
def optionalArguments : Nat → Parse (List Arg)
  | 0 => failure
  | fuel + 1 => do
    if (← peek?) == some (.mark "(") then arguments fuel else return []

/-- Read arguments in parentheses. -/
def arguments : Nat → Parse (List Arg)
  | 0 => failure
  | fuel + 1 => do
    expect (.mark "(")
    if ← accept (.mark ")") then return []
    moreArguments fuel false

/-- Read arguments up to the closing parenthesis; after a named one no positional one follows. -/
def moreArguments : Nat → Bool → Parse (List Arg)
  | 0, _ => failure
  | fuel + 1, named => do
    let (arg, named) ← argument fuel named
    if ← accept (.mark ")") then return [arg]
    expect (.mark ",")
    if ← accept (.mark ")") then return [arg]
    return arg :: (← moreArguments fuel named)

/-- Read one argument, and whether a named one has been read. -/
def argument : Nat → Bool → Parse (Arg × Bool)
  | 0, _ => failure
  | fuel + 1, named => do
    if ← accept (.mark "**") then return (.spreadNamed (← expr fuel), true)
    if ← accept (.mark "*") then return (.spread (← expr fuel), named)
    match ← expr fuel with
    | .var s =>
      if ← accept (.mark "=") then return (.named s (← expr fuel), true)
      guard (!named)
      return (.positional (.var s), false)
    | e =>
      guard (!named)
      return (.positional e, false)

end

/-- Read the filters that are applied to the body of a block. -/
def filterChain : Nat → Option Expr → Parse Expr
  | 0, _ => failure
  | fuel + 1, inner => do
    let f ← name
    let e := Expr.filter f inner (← optionalArguments fuel)
    if (← peek?) == some .blockEnd then return e
    expect (.mark "|")
    filterChain fuel (some e)

/-! ## Targets of assignments -/

mutual

/-- Read what a loop or an assignment binds: a name, or several between commas. -/
def target : Nat → Parse Target
  | 0 => failure
  | fuel + 1 => do
    match ← targets fuel true with
    | ([t], false) => return t
    | (ts, _) => return .list ts

/-- Read targets between commas, and whether there was a comma. -/
def targets : Nat → Bool → Parse (List Target × Bool)
  | 0, _ => failure
  | fuel + 1, first => do
    let t ← peek?
    if t == some (.mark ")") || t == some .variableEnd || t == some .blockEnd ||
        t == some (.word "in") then return ([], !first)
    let one ←
      if ← accept (.mark "(") then do
        let inner ← target fuel
        expect (.mark ")")
        pure inner
      else Target.name <$> freeName
    if ← accept (.mark ",") then
      let (rest, _) ← targets fuel false
      return (one :: rest, true)
    else return ([one], !first)

end

/-- Read the attributes that follow the name assigned to. -/
def attributes : Nat → Expr → Target → Parse Target
  | 0, _, _ => failure
  | fuel + 1, object, t => do
    if ← accept (.mark ".") then
      let s ← name
      attributes fuel (.attr object s) (.attr object s)
    else return t

/-- Read the target of an assignment, and whether it stands in parentheses. -/
def setTarget (fuel : Nat) : Parse (Target × Bool) := do
  if ← accept (.mark "(") then
    let t ← target fuel
    expect (.mark ")")
    return (t, true)
  else
    let s ← freeName
    return (← attributes fuel (.var s) (.name s), false)

/-- Read the target of an assignment that holds in a block. -/
def bindTarget (fuel : Nat) : Parse Target := do
  if ← accept (.mark "(") then
    let t ← target fuel
    expect (.mark ")")
    return t
  else Target.name <$> freeName

/-- Read the assignments of a block. -/
def assignments : Nat → Bool → Parse (List (Target × Expr))
  | 0, _ => failure
  | fuel + 1, first => do
    if (← peek?) == some .blockEnd then return []
    if !first then expect (.mark ",")
    let t ← bindTarget fuel
    expect (.mark "=")
    let e ← expr fuel
    return (t, e) :: (← assignments fuel false)

/-- Read parameters up to the closing parenthesis, with the values of those that may be left out. -/
def parameters : Nat → Bool → Bool → Parse (List String × List Expr)
  | 0, _, _ => failure
  | fuel + 1, first, optional => do
    if ← accept (.mark ")") then return ([], [])
    if !first then expect (.mark ",")
    if !first && (← accept (.mark ")")) then return ([], [])
    let s ← freeName
    if ← accept (.mark "=") then
      let value ← expr fuel
      let (names, values) ← parameters fuel false true
      return (s :: names, value :: values)
    else
      guard (!optional)
      let (names, values) ← parameters fuel false false
      return (s :: names, values)

/-- Take the words that say with or without context. -/
def contextWords : Parse Unit := do
  let t ← peek?
  if t == some (.word "without") || t == some (.word "with") then
    let _ ← next
    expect (.word "context")

/-- Read the names that are imported, up to the end of the block. -/
def importedNames : Nat → Bool → Parse Unit
  | 0, _ => failure
  | fuel + 1, first => do
    let done (t : Option Token) : Bool :=
      [some .blockEnd, some (Token.word "with"), some (Token.word "without")].contains t
    if done (← peek?) then return
    if !first then expect (.mark ",")
    if done (← peek?) then return
    let _ ← freeName
    if ← accept (.word "as") then
      let _ ← freeName
    importedNames fuel false

/-! ## Statements -/

/-- Whether a token is one of the words that end a block. -/
def endOf (words : List String) (t : Option Token) : Bool :=
  match t with
  | some (.word s) => words.contains s
  | _ => false

mutual

/-- Read statements up to a block that starts with one of the words `ends`, or to the end. -/
def statements : Nat → Bool → List String → Parse (List Stmt)
  | 0, _, _ => failure
  | fuel + 1, inMacro, ends => do
    if (← peek?).isNone then return []
    match ← next with
    | .data front => return .data front :: (← statements fuel inMacro ends)
    | .variableStart =>
      let e ← expr fuel
      expect .variableEnd
      return .print e :: (← statements fuel inMacro ends)
    | .blockStart =>
      if endOf ends (← peek?) then return []
      let s ← statement fuel inMacro
      expect .blockEnd
      return s :: (← statements fuel inMacro ends)
    | _ => failure

/-- Read the body of a block up to the word that ends it. -/
def body : Nat → Bool → String → Parse (List Stmt)
  | 0, _, _ => failure
  | fuel + 1, inMacro, last => do
    expect .blockEnd
    let inner ← statements fuel inMacro [last]
    expect (.word last)
    return inner

/-- Read what follows the word `if`. -/
def branches : Nat → Bool → Parse Stmt
  | 0, _ => failure
  | fuel + 1, inMacro => do
    let test ← operation fuel 0
    expect .blockEnd
    let yes ← statements fuel inMacro ["endif", "else", "elif"]
    match ← next with
    | .word "else" => return .branch test yes (← body fuel inMacro "endif")
    | .word "elif" => return .branch test yes [← branches fuel inMacro]
    | _ => return .branch test yes []

/-- Read one statement up to the end of its last block. -/
def statement : Nat → Bool → Parse Stmt
  | 0, _ => failure
  | fuel + 1, inMacro => do
    match ← name with
    | "for" =>
      let t ← target fuel
      expect (.word "in")
      let items ← operation fuel 0
      let condition ← if ← accept (.word "if") then some <$> expr fuel else pure none
      let recursive ← accept (.word "recursive")
      expect .blockEnd
      let inner ← statements fuel inMacro ["endfor", "else"]
      match ← next with
      | .word "else" =>
        return .forEach t items condition recursive inner (← body fuel inMacro "endfor")
      | _ => return .forEach t items condition recursive inner []
    | "if" => branches fuel inMacro
    | "with" =>
      let bindings ← assignments fuel true
      return .bind bindings (← body fuel inMacro "endwith")
    | "set" =>
      let (t, closed) ← setTarget fuel
      if !closed && (← peek?) == some .blockEnd then
        return .setBlock t none (← body fuel inMacro "endset")
      if !closed && (← accept (.mark "|")) then
        let f ← filterChain fuel none
        return .setBlock t (some f) (← body fuel inMacro "endset")
      expect (.mark "=")
      return .set t (← expr fuel)
    | "autoescape" =>
      let mode ← expr fuel
      return .escaping mode (← body fuel inMacro "endautoescape")
    | "filter" =>
      let f ← filterChain fuel none
      return .filterBlock f (← body fuel inMacro "endfilter")
    | "block" =>
      guard (!inMacro)
      let s ← name
      guard (!(← get).blocks.contains s)
      modify fun c => { c with blocks := s :: c.blocks }
      let inner ← body fuel inMacro "endblock"
      match ← peek? with
      | some (.word last) =>
        guard (last == s)
        let _ ← next
        return .block s inner
      | _ => return .block s inner
    | "extends" => return .needOther (← expr fuel)
    | "include" =>
      let other ← expr fuel
      contextWords
      let lenient ← accept (.word "ignore")
      if lenient then
        expect (.word "missing")
        contextWords
      return .includeOther other lenient
    | "import" =>
      let other ← expr fuel
      expect (.word "as")
      let _ ← expr fuel
      contextWords
      return .needOther other
    | "from" =>
      let other ← expr fuel
      expect (.word "import")
      importedNames fuel true
      contextWords
      return .needOther other
    | "macro" =>
      let s ← name
      expect (.mark "(")
      let (names, values) ← parameters fuel true false
      return .defineMacro s names values (← body fuel true "endmacro")
    | "call" =>
      let (names, values) ←
        if ← accept (.mark "(") then parameters fuel true false else pure ([], [])
      match ← expr fuel with
      | .call f args => return .callBlock f args names values (← body fuel true "endcall")
      | _ => failure
    | "do" =>
      match ← expr fuel with
      | .call f args => return .perform (.call f args)
      | _ => failure
    | _ => failure

end

end Parse

/-- The statements of a template; `none` if it is not a template. -/
def ofText? (source : String) : Option (List Stmt) := do
  let tokens ← Token.ofText? source
  let (found, _) ← (Parse.statements (32 * tokens.length + 32) false []).run ⟨tokens, []⟩
  some found

/-- Whether a text is a template. -/
def isValid (source : String) : Bool :=
  (ofText? source).isSome

end Watchpost.Template
