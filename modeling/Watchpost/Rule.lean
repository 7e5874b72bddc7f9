import Watchpost.Channel
import Watchpost.Number.Layout
import Watchpost.Severity

set_option autoImplicit false

/-! # Detection rules

A rule says which events it is about, what to make of them and whom to tell. Its conditions filter
by the type and the action of an event and compare fields of the event's document with literals; an
aggregation makes it wait until enough events with one grouping value fall into a window. -/

namespace Watchpost

/-! ## Conditions -/

/-- A text to be equal to, or a list of texts to be one of. -/
inductive Rule.Filter where
  | one (text : String)
  | anyOf (texts : List String)
deriving DecidableEq, Repr, Inhabited

/-- How a field is compared with a literal. An unknown operator never holds. -/
inductive Rule.Operator where
  | eq
  | neq
  | contains
  | notContains
  | isIn
  | notIn
  | gt
  | lt
  | gte
  | lte
  | unknown (name : String)
deriving DecidableEq, Repr, Inhabited

/-- Compares the field at a path with a literal. -/
structure Rule.Condition where
  field : String
  operator : Rule.Operator
  value : Json
deriving Repr, Inhabited

/-- Counts events by the value of a field and waits for `threshold` of them within a window. -/
structure Rule.Aggregation where
  field : String
  threshold : Nat
  windowSeconds : Binary64
deriving DecidableEq, Repr, Inhabited

/-- What an event has to satisfy. -/
structure Rule.Conditions where
  kind : Option Rule.Filter
  action : Option Rule.Filter
  fields : List Rule.Condition
  aggregation : Option Rule.Aggregation
deriving Repr, Inhabited

/-- A detection rule. -/
structure Rule where
  id : String
  name : String
  description : Option String
  enabled : Bool
  severity : Severity
  conditions : Rule.Conditions
  actions : List ChannelConfig
deriving Repr, Inhabited

namespace Rule

/-- The aggregation of a rule, if it has one. -/
def aggregation (r : Rule) : Option Aggregation :=
  r.conditions.aggregation

namespace Filter

/-- Whether a text passes a filter. -/
def accepts (f : Filter) (text : String) : Bool :=
  match f with
  | .one expected => expected == text
  | .anyOf texts => texts.contains text

end Filter

namespace Operator

/-- The operator with a name. -/
def ofName : String → Operator
  | "eq" => .eq
  | "neq" => .neq
  | "contains" => .contains
  | "not_contains" => .notContains
  | "in" => .isIn
  | "not_in" => .notIn
  | "gt" => .gt
  | "lt" => .lt
  | "gte" => .gte
  | "lte" => .lte
  | other => .unknown other

/-- The name of an operator. -/
def name : Operator → String
  | .eq => "eq"
  | .neq => "neq"
  | .contains => "contains"
  | .notContains => "not_contains"
  | .isIn => "in"
  | .notIn => "not_in"
  | .gt => "gt"
  | .lt => "lt"
  | .gte => "gte"
  | .lte => "lte"
  | .unknown name => name

@[simp] theorem name_ofName (s : String) : (ofName s).name = s := by
  unfold ofName
  split <;> rfl

end Operator

namespace Aggregation

/-- The length of the window in microseconds, rounded; a half goes away from zero. -/
def windowMicros (a : Aggregation) : Int :=
  (a.windowSeconds.mul (Binary64.ofNat 1000000)).roundToWord

/-- The length of the window in nanoseconds. -/
def window (a : Aggregation) : Int :=
  a.windowMicros * 1000

/-- The length of the window in seconds, for messages: whole numbers without a point, others in
    positional notation. -/
def windowLabel (a : Aggregation) : String :=
  let seconds := a.windowSeconds
  if seconds.isWhole && seconds.units < Nat.pow 10 15 * Binary64.unitsPerOne then
    String.ofList (Text.signedDecimal seconds.truncate)
  else Layout.plain.formatAny "inf" "NaN" seconds

end Aggregation

end Rule

end Watchpost
