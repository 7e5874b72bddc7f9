import Watchpost.Log
import Watchpost.Template.Filter
import Watchpost.Template.Grammar

set_option autoImplicit false

/-! # Rendering templates

Rendering walks through the statements of a template and collects their text. Names are looked up in
frames, the innermost first; loops, `with` blocks, named blocks and calls open a frame. Rendering
fails at the first expression without a value, and what was logged until then is kept. -/

namespace Watchpost.Template

/-- A part of a template that can be called. -/
inductive Procedure where
  /-- A named part with parameters; `depth` frames were open where it was defined. -/
  | defined (params : List String) (defaults : List Expr) (body : List Stmt) (depth : Nat)
  /-- The body of a loop that may be run again on other items. -/
  | loop (target : Target) (condition : Option Expr) (body otherwise : List Stmt)

/-- What rendering changes: the names bound in each open frame, the procedures defined so far, the
    places that attributes are assigned to, and the log. -/
structure Machine where
  frames : List (List (String × Value)) := []
  procedures : List Procedure := []
  places : List (List (String × Value)) := []
  logs : List Log.Record := []

/-- What rendering reads: the environment, whether text is escaped, and how many loops are open. -/
structure Setting where
  environment : String → Option String
  escaping : Bool := false
  depth : Nat := 0

/-- Rendering may fail; the machine is kept. -/
abbrev Run := OptionT (StateM Machine)

namespace Run

/-- A value that may be missing, which fails. -/
def ofOption {α : Type} : Option α → Run α
  | some a => pure a
  | none => failure

/-- Functions that are known by name. -/
def functions : List String := ["range", "dict", "debug", "namespace", "env"]

/-- The value of a name. -/
def lookup (name : String) : Run Value := do
  match (← get).frames.findSome? (List.lookup name) with
  | some v => return v
  | none => return if functions.contains name then .function name else .undefined

/-- Bind a name in the innermost frame. -/
def bindName (name : String) (v : Value) : Run Unit :=
  modify fun m => match m.frames with
    | [] => { m with frames := [[(name, v)]] }
    | frame :: rest => { m with frames := ((name, v) :: frame.filter (·.1 != name)) :: rest }

/-- Run with one more frame. -/
def withFrame {α : Type} (run : Run α) : Run α := do
  modify fun m => { m with frames := [] :: m.frames }
  let a ← run
  modify fun m => { m with frames := m.frames.tail }
  return a

/-- Run with a frame on top of the `depth` outermost ones, and go back to the present ones. -/
def withOuter {α : Type} (depth : Nat) (run : Run α) : Run α := do
  let frames := (← get).frames
  modify fun m => { m with frames := [] :: frames.drop (frames.length - depth) }
  let a ← run
  modify fun m => { m with frames := frames }
  return a

/-- Make a place. -/
def newPlace (members : List (String × Value)) : Run Nat := do
  let n := (← get).places.length
  modify fun m => { m with places := m.places ++ [members] }
  return n

/-- Make a procedure. -/
def newProcedure (p : Procedure) : Run Nat := do
  let n := (← get).procedures.length
  modify fun m => { m with procedures := m.procedures ++ [p] }
  return n

/-- Assign to an attribute of a place. -/
def assign (place : Nat) (name : String) (v : Value) : Run Unit :=
  modify fun m => { m with places := m.places.modify place fun members =>
    (name, v) :: members.filter (·.1 != name) }

/-- The value under a key; `undefined` if there is none, and a failure on `undefined`. -/
def part (v key : Value) : Run Value := do
  match v with
  | .undefined => failure
  | .space id =>
    let members := ((← get).places[id]?).getD []
    return (key.asText?.bind fun k => members.lookup k).getD .undefined
  | v => return (v.part? key).getD .undefined

/-! ## Functions -/

/-- The numbers from a first one up or down to a last one, which is left out. -/
def range? (args : Args) : Option Value := do
  guard args.named.isEmpty
  let word (v : Value) : Option Nat := v.asInt?.bind fun n =>
    if 0 ≤ n ∧ n < 4294967296 then some n.toNat else none
  let (lower, upper, step) ← match args.positional with
    | [upper] => (word upper).map fun u => (0, u, 1)
    | [lower, upper] => (word lower).bind fun l => (word upper).map fun u => (l, u, 1)
    | [lower, upper, step] =>
      (word lower).bind fun l => (word upper).bind fun u => (word step).map fun k => (l, u, k)
    | _ => none
  guard (step != 0)
  let count := (upper - lower + step - 1) / step
  guard (count ≤ 100000)
  return .list ((List.range count).map fun i => .ofNat (lower + i * step))

/-- Call a function that is known by name. -/
def callFunction (s : Setting) (name : String) (args : Args) : Run Value :=
  match name with
  | "env" => do
    match args with
    | ⟨[v], []⟩ =>
      let name := v.toText
      match s.environment name with
      | some text => return .ofString text
      | none =>
        modify fun m => { m with logs := m.logs ++
          [Log.warn "template referenced unset environment variable" [("var", name)]] }
        return .ofString ""
    | _ => failure
  | "range" => ofOption (range? args)
  | "dict" =>
    match args.positional with
    | [] => return .map (args.named.map fun a => (.ofString a.1, a.2))
    | [.map entries] =>
      let added := args.named.map fun a => (Value.ofString a.1, a.2)
      return .map (entries.filter (fun e => !(added.any fun a => Value.same a.1 e.1)) ++ added)
    | _ => failure
  | "namespace" =>
    match args.positional with
    | [] => .space <$> newPlace args.named
    | [.map entries] =>
      .space <$> newPlace (args.named ++ entries.filterMap fun e => e.1.asText?.map (·, e.2))
    | _ => failure
  | "debug" => return .ofString ""
  | _ => failure

/-- The text of a value where it is printed. -/
def shown (s : Setting) (v : Value) : String :=
  String.ofList (if s.escaping then v.html else v.chars)

/-- Collected text as a value; it is exempt from escaping where escaping is on. -/
def captured (s : Setting) (text : String) : Value :=
  .text text s.escaping

/-! ## Expressions and statements -/

mutual

/-- The value of an expression. -/
def eval : Nat → Setting → Expr → Run Value
  | 0, _, _ => failure
  | fuel + 1, s, e => do
    match e with
    | .none => return .none
    | .bool b => return .bool b
    | .integer n => return .integer n
    | .decimal x => return .decimal x
    | .text t => return .ofString t
    | .var name => lookup name
    | .list items => return .list (← items.mapM (eval fuel s))
    | .map entries =>
      let mut found : List (Value × Value) := []
      for (k, v) in entries do
        let key ← eval fuel s k
        let value ← eval fuel s v
        found := if found.any fun e => Value.same e.1 key
          then found.map fun e => if Value.same e.1 key then (e.1, value) else e
          else found ++ [(key, value)]
      return .map found
    | .unary op operand => ofOption (op.result? (← eval fuel s operand))
    | .binary op left right =>
      let a ← eval fuel s left
      match op with
      | .and => if a.isTrue then eval fuel s right else return a
      | .or => if a.isTrue then return a else eval fuel s right
      | op => ofOption (op.result? a (← eval fuel s right))
    | .choose test yes no =>
      if (← eval fuel s test).isTrue then eval fuel s yes
      else match no with
        | some no => eval fuel s no
        | none => return .undefined
    | .filter name operand args =>
      let v ← match operand with
        | some operand => eval fuel s operand
        | none => return .undefined
      ofOption (filter? name v (← evalArgs fuel s args))
    | .test name operand args =>
      let v ← eval fuel s operand
      return .bool (← ofOption (test? name v (← evalArgs fuel s args)))
    | .attr operand name => part (← eval fuel s operand) (.ofString name)
    | .item operand index =>
      let v ← eval fuel s operand
      part v (← eval fuel s index)
    | .slice operand start stop step =>
      let v ← eval fuel s operand
      let bound (e : Option Expr) : Run Value := match e with
        | some e => eval fuel s e
        | none => return .none
      let start ← bound start
      let stop ← bound stop
      ofOption (Value.slice? v start stop (← bound step))
    | .call (.attr object "cycle") args =>
      match ← eval fuel s object with
      | .loop index _ _ _ _ _ _ =>
        let args ← evalArgs fuel s args
        ofOption args.positional[index % args.positional.length]?
      | v => call fuel s (← part v (.ofString "cycle")) (← evalArgs fuel s args)
    | .call (.attr object "changed") args =>
      match ← eval fuel s object with
      | .loop _ _ _ _ _ memory _ =>
        let now := Value.list (← evalArgs fuel s args).positional
        let seen := ((← get).places[memory]?.bind (List.lookup "seen")).getD .undefined
        if Value.same now seen then return .bool false
        assign memory "seen" now
        return .bool true
      | v => call fuel s (← part v (.ofString "changed")) (← evalArgs fuel s args)
    | .call f args =>
      let v ← eval fuel s f
      call fuel s v (← evalArgs fuel s args)

/-- The values of arguments. -/
def evalArgs : Nat → Setting → List Arg → Run Args
  | 0, _, _ => failure
  | fuel + 1, s, args => do
    let mut found : Args := ⟨[], []⟩
    for arg in args do
      match arg with
      | .positional e => found := { found with positional := found.positional ++ [← eval fuel s e] }
      | .spread e =>
        let items ← ofOption (← eval fuel s e).items?
        found := { found with positional := found.positional ++ items }
      | .named name e =>
        found := { found with named := found.named ++ [(name, ← eval fuel s e)] }
      | .spreadNamed e =>
        match ← eval fuel s e with
        | .map entries =>
          let more ← ofOption (entries.mapM fun e => e.1.asText?.map (·, e.2))
          found := { found with named := found.named ++ more }
        | .named more => found := { found with named := found.named ++ more }
        | _ => failure
    return found

/-- Call a value. -/
def call : Nat → Setting → Value → Args → Run Value
  | 0, _, _, _ => failure
  | fuel + 1, s, f, args => do
    match f with
    | .function name => callFunction s name args
    | .procedure id _ =>
      match (← get).procedures[id]? with
      | some (.defined params defaults body depth) =>
        guard (args.positional.length ≤ params.length)
        guard (args.named.all fun a => a.1 == "caller" ||
          (params.drop args.positional.length).contains a.1)
        let required := params.length - defaults.length
        withOuter depth do
          if let some caller := args.named.lookup "caller" then bindName "caller" caller
          for (name, i) in params.zipIdx do
            let given := (args.positional[i]?.or (args.named.lookup name)).getD .undefined
            let value ← match given, defaults[i - required]? with
              | .undefined, some e => if required ≤ i then eval fuel s e else pure .undefined
              | v, _ => pure v
            bindName name value
          return captured s (← execAll fuel { s with depth := 0 } body)
      | _ => failure
    | .loop _ _ depth _ _ _ (some id) =>
      match (← get).procedures[id]?, args with
      | some (.loop target condition body otherwise), ⟨[v], []⟩ =>
        let items ← ofOption v.items?
        return captured s
          (← repeatOver fuel { s with depth := depth + 1 } target condition body otherwise items
            (some id))
      | _, _ => failure
    | _ => failure

/-- Assign a value to a target. -/
def bindTarget : Nat → Setting → Target → Value → Run Unit
  | 0, _, _, _ => failure
  | fuel + 1, s, target, v => do
    match target with
    | .name name => bindName name v
    | .attr object name =>
      match ← eval fuel s object with
      | .space id => assign id name v
      | _ => failure
    | .list targets =>
      match v with
      | .undefined | .none | .text _ _ => failure
      | v =>
        let items ← ofOption v.items?
        guard (items.length == targets.length)
        for (t, w) in targets.zip items do bindTarget fuel s t w

/-- Run the body of a loop for every item, or `otherwise` if there is none. -/
def repeatOver : Nat → Setting → Target → Option Expr → List Stmt → List Stmt → List Value →
    Option Nat → Run String
  | 0, _, _, _, _, _, _, _ => failure
  | fuel + 1, s, target, condition, body, otherwise, items, again => do
    let chosen ← match condition with
      | none => pure items
      | some test => withFrame <| items.filterM fun v => do
        bindTarget fuel s target v
        return (← eval fuel s test).isTrue
    if chosen.isEmpty then execAll fuel s otherwise
    else
      let memory ← newPlace []
      withFrame do
        let mut out := ""
        for (v, i) in chosen.zipIdx do
          let previous := if i = 0 then .undefined else (chosen[i - 1]?).getD .undefined
          bindName "loop" (.loop i chosen.length s.depth previous
            ((chosen[i + 1]?).getD .undefined) memory again)
          bindTarget fuel s target v
          out := out ++ (← execAll fuel { s with depth := s.depth + 1 } body)
        return out

/-- The text of one statement. -/
def exec : Nat → Setting → Stmt → Run String
  | 0, _, _ => failure
  | fuel + 1, s, stmt => do
    match stmt with
    | .data text => return String.ofList text
    | .print e => return shown s (← eval fuel s e)
    | .forEach target items condition recursive body otherwise =>
      let found ← ofOption (← eval fuel s items).items?
      let again ← if recursive
        then some <$> newProcedure (.loop target condition body otherwise) else pure none
      repeatOver fuel s target condition body otherwise found again
    | .branch test yes no =>
      if (← eval fuel s test).isTrue then execAll fuel s yes else execAll fuel s no
    | .bind assignments body =>
      withFrame do
        for (t, e) in assignments do bindTarget fuel s t (← eval fuel s e)
        execAll fuel s body
    | .set target e =>
      bindTarget fuel s target (← eval fuel s e)
      return ""
    | .setBlock target filter body =>
      let text := captured s (← execAll fuel s body)
      let v ← match filter with
        | some f => applyFilters fuel s f text
        | none => pure text
      bindTarget fuel s target v
      return ""
    | .escaping mode body =>
      let escaping ← match ← eval fuel s mode with
        | .text "html" _ => pure true
        | .text "none" _ => pure false
        | .bool b => pure b
        | _ => failure
      execAll fuel { s with escaping := escaping } body
    | .filterBlock filter body =>
      let text := captured s (← execAll fuel s body)
      return shown s (← applyFilters fuel s filter text)
    | .block _ body => withFrame (execAll fuel { s with depth := 0 } body)
    | .defineMacro name params defaults body =>
      let depth := (← get).frames.length
      let id ← newProcedure (.defined params defaults body depth)
      bindName name (.procedure id name)
      return ""
    | .callBlock f args params defaults body =>
      let depth := (← get).frames.length
      let id ← newProcedure (.defined params defaults body depth)
      let v ← eval fuel s f
      let args ← evalArgs fuel s args
      let args := { args with named := args.named ++ [("caller", .procedure id "caller")] }
      return shown s (← call fuel s v args)
    | .perform e =>
      let _ ← eval fuel s e
      return ""
    | .includeOther name lenient =>
      let _ ← eval fuel s name
      if lenient then return "" else failure
    | .needOther _ => failure

/-- The text of statements. -/
def execAll : Nat → Setting → List Stmt → Run String
  | 0, _, _ => failure
  | fuel + 1, s, stmts => do
    let mut out := ""
    for stmt in stmts do out := out ++ (← exec fuel s stmt)
    return out

/-- Apply the filters of a block to its text. -/
def applyFilters : Nat → Setting → Expr → Value → Run Value
  | 0, _, _, _ => failure
  | fuel + 1, s, e, text => do
    match e with
    | .filter name operand args =>
      let v ← match operand with
        | some inner => applyFilters fuel s inner text
        | none => pure text
      ofOption (filter? name v (← evalArgs fuel s args))
    | _ => failure

end

end Run

/-- How deep calls may nest in one another while a template is rendered. -/
def maxNesting : Nat := 500

/-- Render a template with the given names bound. Nesting is bounded by that of the template for
    each call. -/
def render (environment : String → Option String) (bindings : List (String × Value))
    (source : String) : Option String × List Log.Record :=
  match ofText? source with
  | none => (none, [])
  | some stmts =>
    let fuel := (source.length + 8) * maxNesting
    let (text, machine) :=
      (Run.execAll fuel ⟨environment, false, 0⟩ stmts).run.run { frames := [[], bindings] }
    (text, machine.logs)

end Watchpost.Template
