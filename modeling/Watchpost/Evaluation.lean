import Watchpost.Alert
import Watchpost.Matching
import Watchpost.Tracker

set_option autoImplicit false

/-! # Evaluating a rule against an event

A rule is matched against the document of an event. A match of a rule without aggregation raises an
alert at once; a match of an aggregated rule is tracked, and raises an alert when it triggers. -/

namespace Watchpost

/-- What an alert takes from outside: the time and an identifier of its own. -/
structure Stamp where
  time : Instant
  id : Uuid
deriving DecidableEq, Repr, Inhabited

/-- What comes of evaluating one rule against one event. The count is that of the bucket, for
    matches of aggregated rules. -/
structure Evaluation where
  alert : Option Alert
  count : Option Nat
deriving Repr, Inhabited

/-- Why an alert could not be built. -/
inductive Evaluation.Error where
  | missingAggregation (ruleId : String)
deriving DecidableEq, Repr, Inhabited

/-- The text of an error. -/
def Evaluation.Error.message : Evaluation.Error → String
  | .missingAggregation ruleId => "rule '" ++ ruleId ++ "' has no aggregation condition"

namespace Rule

/-! ## Messages -/

/-- The message of an alert that one event raises. -/
def immediateMessage (ruleName : String) (e : Event) : String :=
  ruleName ++ ": " ++ e.action ++ " by " ++ e.actorLabel

/-- The message of an alert that a number of events raises. -/
def aggregatedMessage (ruleName : String) (count : Nat) (value : String) (a : Aggregation) :
    String :=
  ruleName ++ ": " ++ count.repr ++ " occurrences from " ++ value ++ " in " ++ a.windowLabel ++ "s"

/-! ## Alerts -/

/-- An alert of a rule with a given message. -/
def alert (r : Rule) (e : Event) (stamp : Stamp) (message : String) : Alert :=
  { id := stamp.id, ruleId := r.id, ruleName := r.name, severity := r.severity,
    triggeredAt := stamp.time, event := e, message }

/-- The alert of a rule without aggregation. -/
def immediateAlert (r : Rule) (e : Event) (stamp : Stamp) : Alert :=
  r.alert e stamp (immediateMessage r.name e)

/-- The alert of an aggregated rule that a number of events has set off. -/
def aggregatedAlert (r : Rule) (e : Event) (document : Json) (count : Nat) (stamp : Stamp) :
    Except Evaluation.Error Alert :=
  match r.aggregation with
  | none => .error (.missingAggregation r.id)
  | some a =>
    let value := (Path.groupingTextAt document a.field).getD "unknown"
    .ok (r.alert e stamp (aggregatedMessage r.name count value a))

/-! ## Evaluation -/

/-- Evaluate a rule against an event and its document. -/
def evaluate (r : Rule) (e : Event) (document : Json) (stamp : Stamp) (t : Tracker) :
    Except Evaluation.Error Evaluation × Tracker :=
  if r.isMatch document then
    match r.aggregation with
    | none => (.ok ⟨some (r.immediateAlert e stamp), none⟩, t)
    | some a =>
      let (outcome, t) := t.track r.id document a stamp.time
      if outcome.triggered then
        match r.aggregatedAlert e document outcome.count stamp with
        | .ok alert => (.ok ⟨some alert, some outcome.count⟩, t)
        | .error error => (.error error, t)
      else (.ok ⟨none, some outcome.count⟩, t)
  else (.ok ⟨none, none⟩, t)

end Rule

end Watchpost
