set_option autoImplicit false

/-! # Environment variables

An environment gives names their values. `Environment.expand` replaces the references in a text,
each written as a name in braces after a dollar sign, by the values of the names; a value is copied
as it stands and never searched for references itself. -/

namespace Watchpost

/-- The values of environment variables. -/
abbrev Environment := String → Option String

namespace Environment

/-- The environment in which no variable is set. -/
def empty : Environment := fun _ => none

/-- The environment of a list of names and values. -/
def ofList (assigned : List (String × String)) : Environment :=
  fun name => assigned.lookup name

/-- What is wrong with the first reference that cannot be replaced. -/
inductive ReferenceError where
  | unterminated
  | unnamed
  | unset (name : String)
deriving DecidableEq, Repr

/-- A text with its references replaced, from left to right. -/
def expandChars (env : Environment) : List Char → Except ReferenceError (List Char)
  | [] => .ok []
  | '$' :: '{' :: rest =>
    let name := rest.takeWhile (· ≠ '}')
    match _h : rest.dropWhile (· ≠ '}') with
    | [] => .error .unterminated
    | _ :: tail =>
      if name.isEmpty then .error .unnamed
      else
        match env (String.ofList name) with
        | none => .error (.unset (String.ofList name))
        | some value => (expandChars env tail).map (value.toList ++ ·)
  | c :: rest => (expandChars env rest).map (c :: ·)
termination_by cs => cs.length
decreasing_by
  · have := (List.dropWhile_suffix (l := rest) (· ≠ '}')).length_le
    simp only [_h, List.length_cons] at this ⊢
    omega
  · simp

/-- A text with its references replaced. -/
def expand (env : Environment) (input : String) : Except ReferenceError String :=
  (expandChars env input.toList).map String.ofList

/-- What a reference error says about the text it is in. -/
def ReferenceError.message (input : String) : ReferenceError → String
  | .unterminated => "unterminated $\x7b...\x7d reference in '" ++ input ++ "'"
  | .unnamed => "empty $\x7b\x7d reference in '" ++ input ++ "'"
  | .unset name => "environment variable " ++ name ++ " is not set"

end Environment

end Watchpost
