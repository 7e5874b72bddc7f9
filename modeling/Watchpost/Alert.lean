import Watchpost.Event
import Watchpost.Uuid

set_option autoImplicit false

/-! # Alerts

What a rule raises: the rule's identity, the event that set it off and a message for people. -/

namespace Watchpost

/-- An alert raised by a rule. -/
structure Alert where
  id : Uuid
  ruleId : String
  ruleName : String
  severity : Severity
  triggeredAt : Instant
  event : Event
  message : String
deriving Repr, Inhabited

namespace Alert

open Json (Reader Syntax)

/-- The JSON value of an alert. -/
def document (a : Alert) : Json :=
  .ofMembers [("id", .string a.id.text), ("rule_id", .string a.ruleId),
    ("rule_name", .string a.ruleName), ("severity", .string a.severity.name),
    ("triggered_at", .string a.triggeredAt.text), ("event", a.event.document),
    ("message", .string a.message)]

/-- Read an identifier. -/
def readId : Reader Uuid
  | .string (some s) => Uuid.read? s
  | _ => none

/-- Read an alert. -/
def read (tree : Syntax) : Option Alert := do
  let fields ← tree.fields?
    ["id", "rule_id", "rule_name", "severity", "triggered_at", "event", "message"]
  return { id := ← fields.required "id" readId
           ruleId := ← fields.required "rule_id" Json.Read.text
           ruleName := ← fields.required "rule_name" Json.Read.text
           severity := ← fields.required "severity" Severity.read
           triggeredAt := ← fields.required "triggered_at" Event.readInstant
           event := ← fields.required "event" (Event.readWithin (Json.maxDepth - 1))
           message := ← fields.required "message" Json.Read.text }

end Alert

end Watchpost
