import Watchpost.Alert
import Watchpost.Json.Compact
import Watchpost.Delivery.Console

set_option autoImplicit false

/-! # What is posted about an alert

The standard body of a webhook and the message for a chat channel. -/

namespace Watchpost.Alert

/-- The standard body of a webhook: the alert, and what identifies its event. -/
def webhookPayload (a : Alert) : Json :=
  .ofMembers [("alert_id", .string a.id.text), ("rule_id", .string a.ruleId),
    ("rule_name", .string a.ruleName), ("severity", .string a.severity.name),
    ("message", .string a.message), ("triggered_at", .string a.triggeredAt.text),
    ("event", .ofMembers [("id", .string a.event.id), ("type", .string a.event.kind.name),
      ("action", .string a.event.action), ("actor", .ofOption Event.Actor.document a.event.actor),
      ("source", .ofOption Event.Source.document a.event.source)])]

/-- The text of a chat message. -/
def slackText (a : Alert) : String :=
  "*" ++ a.severity.label ++ "* " ++ a.ruleName ++ "\n" ++ a.message ++ "\nEvent \x60" ++
    a.event.id ++ "\x60 at " ++ a.triggeredAt.offsetText

/-- The body of a chat message. -/
def slackPayload (a : Alert) : Json :=
  .ofMembers [("text", .string a.slackText)]

end Watchpost.Alert
