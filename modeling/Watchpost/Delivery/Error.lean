import Watchpost.Environment
import Watchpost.Text.Digits

set_option autoImplicit false

/-! # Why a delivery fails

A `Fault` is found when a notification target is built from its options; an `Error` ends one
delivery. -/

namespace Watchpost.Delivery

/-! ## Durations -/

/-- A length of time in nanoseconds. -/
abbrev Duration := Nat

/-- The digits after a decimal point, `width` of them less the zeros at the end. -/
def Duration.fraction (width n : Nat) : List Char :=
  let digits := ((Text.paddedDecimal width n).reverse.dropWhile (· == '0')).reverse
  if digits.isEmpty then [] else '.' :: digits

/-- A duration in its largest unit that is not below one: `1.5s`, `200ms`, `250µs`, `999ns`. -/
def Duration.text (d : Duration) : String :=
  let inUnit (size width : Nat) (name : String) : String :=
    String.ofList (Text.decimal (d / size) ++ Duration.fraction width (d % size)) ++ name
  if Nat.pow 10 9 ≤ d then inUnit (Nat.pow 10 9) 9 "s"
  else if Nat.pow 10 6 ≤ d then inUnit (Nat.pow 10 6) 6 "ms"
  else if Nat.pow 10 3 ≤ d then inUnit (Nat.pow 10 3) 3 "µs"
  else inUnit 1 0 "ns"

/-! ## Faults and errors -/

/-- What is wrong with the options of a notification target. -/
inductive Fault where
  | reference (input : String) (error : Environment.ReferenceError)
  | missingUrl
  | headerNotText (key : String)
  | headersNotMap
  | unsupportedMethod (name : String)
  | invalidHeaderName (name : String)
  | invalidHeaderValue (name : String)
  | malformedTemplate
  | missingHookUrl
  | emptyHookUrl
  | unknownChannel (name : String)
  | other (reason : String)
deriving DecidableEq, Repr

/-- What a fault says. -/
def Fault.reason : Fault → String
  | .reference input error => error.message input
  | .missingUrl => "webhook notifier requires 'url' in config"
  | .headerNotText key => "webhook header '" ++ key ++ "' must be a string"
  | .headersNotMap => "webhook 'headers' must be a map of strings"
  | .unsupportedMethod name => "unsupported webhook method '" ++ name ++ "'"
  | .invalidHeaderName name => "invalid header name '" ++ name ++ "'"
  | .invalidHeaderValue name => "invalid value for header '" ++ name ++ "'"
  | .malformedTemplate => "webhook body_template does not parse:"
  | .missingHookUrl => "slack notifier requires 'webhook_url' in config"
  | .emptyHookUrl => "Slack webhook_url must not be empty"
  | .unknownChannel name => "unknown notifier type '" ++ name ++ "'"
  | .other reason => reason

/-- Why a delivery failed. -/
inductive Error where
  /-- The request could not be made or got no answer. -/
  | http
  /-- The body could not be rendered. -/
  | template
  | misconfigured (fault : Fault)
  | rejected (reason : String)
  | timedOut (limit : Duration)
deriving DecidableEq, Repr

/-- What an error says. -/
def Error.message : Error → String
  | .http => "http:"
  | .template => "template:"
  | .misconfigured fault => "invalid notifier config: " ++ fault.reason
  | .rejected reason => "delivery rejected: " ++ reason
  | .timedOut limit => "timed out after " ++ Duration.text limit

end Watchpost.Delivery
