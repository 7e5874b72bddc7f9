import Watchpost.Path
import Watchpost.Rule

set_option autoImplicit false

/-! # Matching documents against rules

A document matches a rule when its type and action pass the rule's filters and every condition on a
field holds. Matching never fails: a condition whose operands do not suit its operator does not
hold, and `neq`, `not_contains` and `not_in` are the negations of `eq`, `contains` and `in`, so they
hold of a field that is absent. Numbers are compared as doubles. -/

namespace Watchpost

namespace Json

/-- Equality of scalars of one type, numbers as doubles. Arrays and objects equal nothing. -/
def sameScalar : Json → Json → Bool
  | .null, .null => true
  | .bool a, .bool b => a == b
  | .string a, .string b => a == b
  | .number a, .number b => a.toDouble.equals b.toDouble
  | _, _ => false

/-- Whether a string contains another. -/
def containsText : Option Json → Json → Bool
  | some (.string text), .string part => Text.occursIn part.toList text.toList
  | _, _ => false

/-- Whether a value is one of the items of an array. -/
def isMemberOf : Option Json → Json → Bool
  | some value, .array items => items.any (sameScalar value)
  | _, _ => false

/-- Whether two numbers stand in an order relation. -/
def ordered (relation : Binary64 → Binary64 → Bool) (actual : Option Json) (expected : Json) :
    Bool :=
  match actual.bind asDouble?, expected.asDouble? with
  | some a, some b => relation a b
  | _, _ => false

end Json

namespace Rule

/-- Whether the value of a field, where it has one, stands in the relation of an operator to a
    literal. -/
def Operator.holds (op : Operator) (actual : Option Json) (expected : Json) : Bool :=
  match op with
  | .eq => actual.any (·.sameScalar expected)
  | .neq => !actual.any (·.sameScalar expected)
  | .contains => Json.containsText actual expected
  | .notContains => !Json.containsText actual expected
  | .isIn => Json.isMemberOf actual expected
  | .notIn => !Json.isMemberOf actual expected
  | .gt => Json.ordered (fun a b => b.lessThan a) actual expected
  | .lt => Json.ordered (fun a b => a.lessThan b) actual expected
  | .gte => Json.ordered (fun a b => b.atMost a) actual expected
  | .lte => Json.ordered (fun a b => a.atMost b) actual expected
  | .unknown _ => false

/-- Whether a document satisfies a condition. -/
def Condition.holds (c : Condition) (document : Json) : Bool :=
  c.operator.holds (Path.resolve document c.field) c.value

/-- Whether a member of a document passes a filter; one that is not a string passes none. -/
def Filter.passes (filter : Option Filter) (actual : Option Json) : Bool :=
  match filter with
  | none => true
  | some f => (actual.bind Json.asString?).any f.accepts

/-- Whether a document matches a rule. -/
def isMatch (r : Rule) (document : Json) : Bool :=
  Filter.passes r.conditions.kind (document.get? "event_type") &&
    Filter.passes r.conditions.action (document.get? "event_action") &&
    r.conditions.fields.all (·.holds document)

end Rule

end Watchpost
