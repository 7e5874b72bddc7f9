import Watchpost.Number.Layout

set_option autoImplicit false

/-! # Log records

What the program reports about itself: a level, a fixed message and named fields. Fields are texts;
`Log.optional` and the number layouts say how values that are no texts are written. The fields
`alert_id`, `duration_ms`, `path` and `url` are left out: they hold what differs from run to run or
from place to place. -/

namespace Watchpost.Log

/-- How important a record is. -/
inductive Level where
  | debug
  | info
  | warn
  | error
deriving DecidableEq, Repr, Inhabited

/-- The name of a level. -/
def Level.name : Level → String
  | .debug => "DEBUG"
  | .info => "INFO"
  | .warn => "WARN"
  | .error => "ERROR"

/-- One log record. -/
structure Record where
  level : Level
  message : String
  fields : List (String × String)
deriving DecidableEq, Repr, Inhabited

/-- A record at debug level. -/
def debug (message : String) (fields : List (String × String)) : Record :=
  ⟨.debug, message, fields⟩

/-- A record at information level. -/
def info (message : String) (fields : List (String × String)) : Record :=
  ⟨.info, message, fields⟩

/-- A record at warning level. -/
def warn (message : String) (fields : List (String × String)) : Record :=
  ⟨.warn, message, fields⟩

/-- A record at error level. -/
def error (message : String) (fields : List (String × String)) : Record :=
  ⟨.error, message, fields⟩

/-- A number that may be missing, as a field. -/
def optional : Option Nat → String
  | none => "None"
  | some n => "Some(" ++ n.repr ++ ")"

/-- A double as a field. -/
def double (x : Binary64) : String :=
  Layout.logField.formatAny "inf" "NaN" x

end Watchpost.Log
