import Watchpost.Alert
import Watchpost.Text.Case

set_option autoImplicit false

/-! # Alerts on the console

An alert is a few lines of text; in colour, the severity is set off by its own colour. -/

namespace Watchpost

/-- The label of a severity: its name in capitals, in brackets. -/
def Severity.label (s : Severity) : String :=
  "[" ++ Text.upper s.name ++ "]"

/-- The escape sequence that switches to the colour of a severity. -/
def Severity.colour : Severity → String
  | .low => "\x1b[36m"
  | .medium => "\x1b[33m"
  | .high => "\x1b[31m"
  | .critical => "\x1b[35m"

namespace Alert

/-- The line about who acted: the parts that are known and not empty. -/
def actorLine (actor : Event.Actor) : String :=
  let known := [actor.user, actor.email, actor.ip].filterMap fun v => v.filter fun s => !s.isEmpty
  "  Actor: " ++ String.intercalate ", " known

/-- The line about where the actor was. -/
def locationLine (place : Event.Location) : String :=
  "  Location: " ++ place.city.getD "?" ++ ", " ++ place.country.getD "?"

/-- The lines that tell about an alert. -/
def consoleLines (coloured : Bool) (a : Alert) : List String :=
  let (colour, reset) := if coloured then (a.severity.colour, "\x1b[0m") else ("", "")
  let head := [colour ++ "ALERT " ++ a.severity.label ++ reset ++ " " ++ a.ruleName ++ " - " ++
      a.message, "  Event ID: " ++ a.event.id, "  Triggered: " ++ a.triggeredAt.offsetText]
  match a.event.actor with
  | none => head
  | some actor => head ++ actorLine actor :: (actor.geo.map locationLine).toList

/-- What is printed for an alert: its lines, then an empty one. -/
def consoleText (coloured : Bool) (a : Alert) : String :=
  String.intercalate "\n" (a.consoleLines coloured) ++ "\n\n"

end Alert

end Watchpost
