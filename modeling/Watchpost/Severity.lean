import Watchpost.Json.Fields

set_option autoImplicit false

/-! # Severity

How urgent an event or an alert is. The order of the constructors is the order of urgency. -/

namespace Watchpost

/-- How urgent an event or an alert is. -/
inductive Severity where
  | low
  | medium
  | high
  | critical
deriving DecidableEq, Repr, Inhabited

namespace Severity

/-- All severities, the least urgent first. -/
def all : List Severity := [.low, .medium, .high, .critical]

/-- The name of a severity. -/
def name : Severity → String
  | .low => "low"
  | .medium => "medium"
  | .high => "high"
  | .critical => "critical"

/-- The severity with a name. -/
def ofName? (s : String) : Option Severity :=
  all.find? (·.name == s)

@[simp] theorem ofName?_name (s : Severity) : ofName? s.name = some s := by
  cases s <;> decide

/-- The place of a severity in the order of urgency. -/
def rank : Severity → Nat
  | .low => 0
  | .medium => 1
  | .high => 2
  | .critical => 3

/-- Severities in order of urgency, equal ones as they came. -/
def sort (ss : List Severity) : List Severity :=
  ss.mergeSort (fun a b => decide (a.rank ≤ b.rank))

/-- The most urgent of some severities. -/
def maximum? (ss : List Severity) : Option Severity :=
  (sort ss).getLast?

/-- Read a severity. -/
def read : Json.Reader Severity :=
  Json.Read.name ofName?

end Severity

end Watchpost
