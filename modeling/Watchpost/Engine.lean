import Watchpost.Channel
import Watchpost.Delivery.Dispatch
import Watchpost.Evaluation

set_option autoImplicit false

/-! # The engine

The engine evaluates every loaded rule against an event, in the order in which the rules were
loaded, and sends each alert to the targets of its rule before it goes on to the next rule. The
rules can be replaced as a whole; the buckets of the tracker stay. -/

namespace Watchpost

open Delivery (Call Duration Fault Target)

/-! ## Rule sets -/

/-- Rules in the order in which they were loaded, with the targets of their actions. -/
structure RuleSet (τ : Type) where
  rules : List Rule
  dispatcher : Dispatcher τ

namespace RuleSet

variable {τ : Type}

/-- The rule set without rules. -/
def empty (limit : Duration) : RuleSet τ := ⟨[], Dispatcher.empty limit⟩

/-- What is logged about an action whose target cannot be built. -/
def skipped (r : Rule) (index : Nat) (config : ChannelConfig) (fault : Fault) : Log.Record :=
  Log.warn "skipping notification target that failed to build"
    [("rule_id", r.id), ("action", index.repr), ("channel", config.channel.name),
      ("error", (Delivery.Error.misconfigured fault).message)]

/-- Build the targets of actions, counted from `index`; those that cannot be built are left out. -/
def buildActions (build : ChannelConfig → Except Fault τ) (r : Rule) :
    Nat → List ChannelConfig → List τ × List Log.Record
  | _, [] => ([], [])
  | index, config :: rest =>
    let (targets, logs) := buildActions build r (index + 1) rest
    match build config with
    | .ok target => (target :: targets, logs)
    | .error fault => (targets, skipped r index config fault :: logs)

/-- Build the targets of rules and give them to a dispatcher. -/
def buildAll (build : ChannelConfig → Except Fault τ) :
    Dispatcher τ → List Rule → Dispatcher τ × List Log.Record
  | d, [] => (d, [])
  | d, r :: rest =>
    let (targets, logs) := buildActions build r 0 r.actions
    let (d, more) := buildAll build (d.setTargets r.id targets) rest
    (d, logs ++ more)

/-- The rule set of rules, and what is logged while their targets are built. -/
def build (build : ChannelConfig → Except Fault τ) (limit : Duration) (rules : List Rule) :
    RuleSet τ × List Log.Record :=
  let (d, logs) := buildAll build (Dispatcher.empty limit) rules
  (⟨rules, d⟩, logs)

end RuleSet

/-! ## Processing an event -/

/-- What comes of an event: the alerts raised, the calls made, and what they leave behind. -/
structure Processing (τ ω : Type) where
  alerts : List Alert := []
  calls : List (Call τ) := []
  logs : List Log.Record := []
  tracker : Tracker
  world : ω

namespace Rule

/-- What is logged about an alert. -/
def triggered (r : Rule) (e : Event) (a : Alert) (count : Option Nat) : Log.Record :=
  Log.info "alert triggered" [("rule_id", r.id), ("event_id", e.id),
    ("severity", a.severity.name), ("count", Log.optional count)]

/-- What is logged about calls that failed. -/
def failures {τ : Type} (r : Rule) (calls : List (Call τ)) : List Log.Record :=
  let failed := (calls.filter fun c => !c.success).length
  if failed = 0 then []
  else [Log.warn "some notifications failed" [("rule_id", r.id), ("failed", failed.repr),
    ("total", calls.length.repr)]]

section

variable {τ ω : Type} [Target τ ω]

/-- Evaluate a rule against an event and send the alert, if there is one. -/
def process (r : Rule) (d : Dispatcher τ) (e : Event) (document : Json) (stamp : Stamp)
    (t : Tracker) (world : ω) : Processing τ ω :=
  match r.evaluate e document stamp t with
  | (.ok ⟨some a, count⟩, t) =>
    let (calls, logs, world) := d.dispatch r.id a world
    { alerts := [a], calls, logs := r.triggered e a count :: logs ++ r.failures calls,
      tracker := t, world }
  | (.ok ⟨none, some count⟩, t) =>
    { logs := [Log.debug "aggregation below threshold"
        [("rule_id", r.id), ("event_id", e.id), ("count", count.repr)]],
      tracker := t, world }
  | (.ok ⟨none, none⟩, t) => { tracker := t, world }
  | (.error error, t) =>
    { logs := [Log.warn "rule evaluation failed"
        [("rule_id", r.id), ("event_id", e.id), ("error", error.message)]],
      tracker := t, world }

/-- Process rules one after another; `clock n` is the stamp of the `n`-th of them. -/
def processAll (d : Dispatcher τ) (e : Event) (document : Json) :
    (Nat → Stamp) → List Rule → Tracker → ω → Processing τ ω
  | _, [], t, world => { tracker := t, world }
  | clock, r :: rest, t, world =>
    let first := r.process d e document (clock 0) t world
    let others := processAll d e document (fun n => clock (n + 1)) rest first.tracker first.world
    { alerts := first.alerts ++ others.alerts, calls := first.calls ++ others.calls,
      logs := first.logs ++ others.logs, tracker := others.tracker, world := others.world }

end

end Rule

/-! ## Engines -/

/-- An engine. Buckets are kept for `retentionSecs` seconds. -/
structure Engine (τ : Type) where
  ruleSet : RuleSet τ
  tracker : Tracker := Tracker.empty
  retentionSecs : Nat

namespace Engine

variable {τ ω : Type}

/-- What is logged about rules whose window is not shorter than the retention. -/
def longWindows (retentionSecs : Nat) (rules : List Rule) : List Log.Record :=
  let retention := Binary64.ofNat retentionSecs
  rules.filterMap fun r => r.aggregation.bind fun a =>
    if retention.atMost a.windowSeconds then
      some <| Log.warn ("aggregation window is not shorter than bucket retention; " ++
          "idle buckets may be evicted mid-window")
        [("rule_id", r.id), ("window_secs", Log.double a.windowSeconds),
          ("retention_secs", Log.double retention)]
    else none

/-- An engine over rules, with what is logged while it is built. -/
def start (build : ChannelConfig → Except Fault τ) (limit : Duration) (retentionSecs : Nat)
    (rules : List Rule) : Engine τ × List Log.Record :=
  let (ruleSet, logs) := RuleSet.build build limit rules
  ({ ruleSet, retentionSecs }, longWindows retentionSecs rules ++ logs)

/-- Process one event. -/
def process [Target τ ω] (en : Engine τ) (clock : Nat → Stamp) (e : Event) (world : ω) :
    Processing τ ω :=
  Rule.processAll en.ruleSet.dispatcher e e.document clock en.ruleSet.rules en.tracker world

/-- Put another rule set in place, with what is logged about it. -/
def replace (en : Engine τ) (ruleSet : RuleSet τ) : Engine τ × List Log.Record :=
  ({ en with ruleSet },
    [Log.info "rule set replaced" [("rules", ruleSet.rules.length.repr)]])

/-- Put other rules in place and build their targets. -/
def reload (build : ChannelConfig → Except Fault τ) (limit : Duration) (en : Engine τ)
    (rules : List Rule) : Engine τ × List Log.Record :=
  let (ruleSet, logs) := RuleSet.build build limit rules
  let (en, more) := en.replace ruleSet
  (en, longWindows en.retentionSecs rules ++ logs ++ more)

/-- Evict the buckets that have been idle for longer than a retention in nanoseconds. -/
def sweep (en : Engine τ) (now : Instant) (retention : Nat) : Engine τ :=
  { en with tracker := (en.tracker.sweep now retention).2 }

end Engine

end Watchpost
