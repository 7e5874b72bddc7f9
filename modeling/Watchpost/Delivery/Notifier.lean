import Watchpost.Delivery.Dispatch
import Watchpost.Delivery.Webhook

set_option autoImplicit false

/-! # Notification targets

The targets that the actions of a rule name: the console, webhooks and chat channels. A rehearsal
stands in for any of them and only records that it was called. The world around them holds what was
printed, which requests were sent and what answers are still to come. -/

namespace Watchpost.Delivery

/-! ## The world -/

/-- How the network answers a request. -/
inductive Reply where
  | answer (status : Nat) (body : String)
  /-- The connection is closed without an answer. -/
  | closed
deriving DecidableEq, Repr

/-- The world around the targets. -/
structure Surroundings where
  environment : Environment := Environment.empty
  /-- The time of rendering, as templates see it. -/
  now : String := ""
  /-- The text printed on the console. -/
  printed : String := ""
  /-- The rehearsals that were called, by rule and name. -/
  rehearsed : List String := []
  /-- The requests that reached the network. -/
  requests : List Http.Request := []
  /-- What comes of the next requests: a reply, or no connection. -/
  replies : List (Option Reply) := []
  /-- The first request that came when nothing was known about what comes of it. -/
  unanswered : Option Http.Request := none

/-- Send a request. No connection is made for one of which nothing is known. -/
def Surroundings.send (s : Surroundings) (r : Http.Request) : Option Reply × Surroundings :=
  match s.replies with
  | [] => (none, { s with unanswered := s.unanswered.or (some r) })
  | none :: rest => (none, { s with replies := rest })
  | some reply :: rest => (some reply, { s with requests := s.requests ++ [r], replies := rest })

/-! ## Targets -/

/-- A target that does as it is told, for trying rules out. -/
structure Rehearsal where
  name : String
  /-- The milliseconds that it takes. -/
  delay : Nat := 0
  error : Option Error := none
deriving DecidableEq, Repr

/-- A notification target. -/
inductive Notifier where
  | console (coloured : Bool)
  | webhook (w : Webhook)
  | slack (url : String)
  | rehearsal (r : Rehearsal)
deriving DecidableEq, Repr

namespace Notifier

/-- The name of the channel that a target uses. -/
def channel : Notifier → String
  | .console _ => "console"
  | .webhook _ => "webhook"
  | .slack _ => "slack"
  | .rehearsal r => r.name

/-- Build a chat channel from its configuration. -/
def slackOf (env : Environment) (config : ChannelConfig) : Except Fault Notifier := do
  let url ← match config.textOption? "webhook_url" with
    | some url => expand env url
    | none => .error .missingHookUrl
  if url.isEmpty then .error .emptyHookUrl else .ok (.slack url)

/-- Build the target that an action names. -/
def build (env : Environment) (coloured : Bool) (config : ChannelConfig) : Except Fault Notifier :=
  match config.channel with
  | .console => .ok (.console coloured)
  | .webhook => (Webhook.ofConfig env config).map .webhook
  | .slack => slackOf env config
  | .unknown name => .error (.unknownChannel name)

/-! ## Calls -/

/-- Post an alert to a webhook. -/
def callWebhook (w : Webhook) (a : Alert) (s : Surroundings) : Attempt Surroundings :=
  match w.request s.environment s.now a with
  | (.error e, logs) => { outcome := .error e, early := logs, world := s }
  | (.ok request, logs) =>
    match s.send request with
    | (some (.answer status body), s) =>
      let fields := [("rule_id", a.ruleId), ("status", Http.statusText status)]
      if Http.isSuccess status then
        { outcome := .ok (), early := logs, late := [Log.debug "webhook accepted alert" fields],
          world := s }
      else
        { outcome := .error (.rejected (w.method ++ " " ++ w.url ++ " -> " ++
            Http.statusText status ++ ": " ++ body))
          early := logs, late := [Log.warn "webhook rejected alert" fields], world := s }
    | (_, s) => { outcome := .error .http, early := logs, world := s }

/-- Post an alert to a chat channel. -/
def callSlack (url : String) (a : Alert) (s : Surroundings) : Attempt Surroundings :=
  match Url.read? url with
  | none => { outcome := .error .http, world := s }
  | some url =>
    let request := Webhook.requestTo url "POST" [("content-type", "application/json")]
      a.slackPayload.compact
    match s.send request with
    | (some (.answer status body), s) =>
      if Http.isSuccess status then
        { outcome := .ok (), late := [Log.debug "Slack notification delivered" []], world := s }
      else
        { outcome := .error (.rejected
            ("slack returned " ++ Http.statusText status ++ ": " ++ body))
          late := [Log.warn "Slack webhook returned non-2xx status"
            [("status", Http.statusText status), ("body", body)]]
          world := s }
    | (_, s) => { outcome := .error .http, world := s }

/-- Call a rehearsal, which is recorded when it is done. -/
def callRehearsal (r : Rehearsal) (a : Alert) (s : Surroundings) : Attempt Surroundings :=
  { delay := r.delay
    outcome := match r.error with
      | none => .ok ()
      | some e => .error e
    world := { s with rehearsed := s.rehearsed ++ [a.ruleId ++ ":" ++ r.name] } }

/-- Call a target. -/
def call (n : Notifier) (a : Alert) (s : Surroundings) : Attempt Surroundings :=
  match n with
  | .console coloured =>
    { outcome := .ok (), world := { s with printed := s.printed ++ a.consoleText coloured } }
  | .webhook w => callWebhook w a s
  | .slack url => callSlack url a s
  | .rehearsal r => callRehearsal r a s

instance : Target Notifier Surroundings := ⟨channel, call⟩

end Notifier

end Watchpost.Delivery
