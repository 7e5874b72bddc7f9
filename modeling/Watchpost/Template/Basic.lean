import Watchpost.Number.Binary64

set_option autoImplicit false

/-! # Templates as trees

A template is a list of statements, whose parts are expressions. -/

namespace Watchpost.Template

/-- An operator with one operand. -/
inductive UnaryOp where
  | not
  | neg
deriving DecidableEq, Repr, Inhabited

/-- An operator with two operands. -/
inductive BinaryOp where
  | or
  | and
  | eq
  | ne
  | lt
  | le
  | gt
  | ge
  | isIn
  | add
  | sub
  | mul
  | div
  | floorDiv
  | rem
  | pow
  | concat
deriving DecidableEq, Repr, Inhabited

mutual

/-- An expression. -/
inductive Expr where
  | none
  | bool (b : Bool)
  | integer (n : Nat)
  | decimal (x : Binary64)
  | text (s : String)
  | var (name : String)
  | list (items : List Expr)
  | map (entries : List (Expr × Expr))
  | unary (op : UnaryOp) (operand : Expr)
  | binary (op : BinaryOp) (left right : Expr)
  | choose (test yes : Expr) (no : Option Expr)
  /-- A filter; without an operand it is applied to the body of a block. -/
  | filter (name : String) (operand : Option Expr) (args : List Arg)
  | test (name : String) (operand : Expr) (args : List Arg)
  | attr (operand : Expr) (name : String)
  | item (operand index : Expr)
  | slice (operand : Expr) (start stop step : Option Expr)
  | call (function : Expr) (args : List Arg)

/-- An argument of a call. -/
inductive Arg where
  | positional (value : Expr)
  | spread (value : Expr)
  | named (name : String) (value : Expr)
  | spreadNamed (value : Expr)

end

instance : Inhabited Expr := ⟨.none⟩

/-- What is assigned to: a name, an attribute of a name, or a list of targets. -/
inductive Target where
  | name (s : String)
  | attr (object : Expr) (name : String)
  | list (items : List Target)
deriving Inhabited

/-- A statement. -/
inductive Stmt where
  | data (text : List Char)
  | print (value : Expr)
  | forEach (target : Target) (items : Expr) (condition : Option Expr) (recursive : Bool)
      (body otherwise : List Stmt)
  | branch (test : Expr) (yes no : List Stmt)
  | bind (assignments : List (Target × Expr)) (body : List Stmt)
  | set (target : Target) (value : Expr)
  | setBlock (target : Target) (filter : Option Expr) (body : List Stmt)
  | escaping (mode : Expr) (body : List Stmt)
  | filterBlock (filter : Expr) (body : List Stmt)
  | block (name : String) (body : List Stmt)
  | defineMacro (name : String) (params : List String) (defaults : List Expr) (body : List Stmt)
  | callBlock (function : Expr) (args : List Arg) (params : List String) (defaults : List Expr)
      (body : List Stmt)
  | perform (value : Expr)
  /-- Inclusion of another template. -/
  | includeOther (name : Expr) (ignoreMissing : Bool)
  /-- Import from, or extension of, another template. -/
  | needOther (name : Expr)
deriving Inhabited

end Watchpost.Template
