import Watchpost.Alert
import Watchpost.Environment
import Watchpost.Template.Render

set_option autoImplicit false

/-! # Bodies rendered from templates

A template sees the alert in brief as `alert`, the document of its event as `event`, and the time of
rendering as `now`. -/

namespace Watchpost.Alert

open Template (Value)

/-- The alert in brief. -/
def brief (a : Alert) : Value :=
  .map ([("id", a.id.text), ("rule_id", a.ruleId), ("rule_name", a.ruleName),
    ("severity", a.severity.name), ("message", a.message),
    ("triggered_at", a.triggeredAt.offsetText)].map fun (k, v) => (.ofString k, .ofString v))

/-- The names that a template sees. -/
def bindings (a : Alert) (now : String) : List (String × Value) :=
  [("alert", a.brief), ("event", .ofJson a.event.document), ("now", .ofString now)]

/-- A template rendered for an alert, and what was logged on the way. -/
def render (env : Environment) (a : Alert) (now source : String) :
    Option String × List Log.Record :=
  Template.render env (a.bindings now) source

end Watchpost.Alert
