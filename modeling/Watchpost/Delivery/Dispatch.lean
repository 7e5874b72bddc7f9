import Watchpost.Alert
import Watchpost.Delivery.Error
import Watchpost.Log

set_option autoImplicit false

/-! # Dispatching alerts

A target is something that an alert can be sent to. What a call of it does depends on the world
around it and changes that world. A dispatcher holds the targets of each rule and calls them in
order, each within a time limit; a target that fails or takes too long does not keep the others from
being called. -/

namespace Watchpost.Delivery

/-! ## Targets -/

/-- What a call of a target would do if it were given all the time it takes. Of what it does to the
    world only the end is kept, not what the world is like while the call is under way. -/
structure Attempt (ω : Type) where
  /-- The milliseconds that pass before the call is done. -/
  delay : Nat := 0
  outcome : Except Error Unit
  /-- What is logged before the wait. -/
  early : List Log.Record := []
  /-- What is logged when the call is done. -/
  late : List Log.Record := []
  /-- The world when the call is done. -/
  world : ω

/-- Things that alerts can be sent to, in a world `ω`. -/
class Target (τ : Type) (ω : Type) where
  /-- The name of the channel that a target uses. -/
  channel : τ → String
  /-- Call a target for an alert. -/
  attempt : τ → Alert → ω → Attempt ω

/-! ## One delivery -/

/-- A call that was made, and how it ended. How long it took is not kept. -/
structure Call (τ : Type) where
  target : τ
  alert : Alert
  error : Option Error

/-- Whether a call succeeded. -/
def Call.success {τ : Type} (c : Call τ) : Bool :=
  c.error.isNone

/-- The whole milliseconds until a timer goes off that is set for a length of time. The clock that
    timers go by is one of whole milliseconds: it stands at a whole one when a timer is set, and
    moves on by whole ones. -/
def Duration.ticks (limit : Duration) : Nat :=
  (limit + 999999) / 1000000

/-- Whether a call that takes `delay` milliseconds is done within a time limit. At the tick at which
    both are over, the call comes first. -/
def inTime (limit : Duration) (delay : Nat) : Bool :=
  delay ≤ Duration.ticks limit

/-- What is logged about a finished call. -/
def report (ruleId channel : String) : Option Error → Log.Record
  | none => Log.info "alert delivered" [("rule_id", ruleId), ("channel", channel)]
  | some e => Log.warn "alert delivery failed"
      [("rule_id", ruleId), ("channel", channel), ("error", e.message)]

section

variable {τ ω : Type} [Target τ ω]

/-- Call a target within a time limit. One that is not done in time is given up, and the world is
    taken to be as it was before: what the call may have set going until then is not followed. -/
def deliver (limit : Duration) (ruleId : String) (a : Alert) (target : τ) (world : ω) :
    Call τ × List Log.Record × ω :=
  let attempt := Target.attempt target a world
  let channel := Target.channel ω target
  if inTime limit attempt.delay then
    let error := match attempt.outcome with
      | .ok _ => none
      | .error e => some e
    (⟨target, a, error⟩, attempt.early ++ attempt.late ++ [report ruleId channel error],
      attempt.world)
  else
    let error := some (.timedOut limit)
    (⟨target, a, error⟩, attempt.early ++ [report ruleId channel error], world)

/-- Call targets one after another. -/
def deliverAll (limit : Duration) (ruleId : String) (a : Alert) :
    List τ → ω → List (Call τ) × List Log.Record × ω
  | [], world => ([], [], world)
  | target :: rest, world =>
    let (call, logs, world) := deliver limit ruleId a target world
    let (calls, more, world) := deliverAll limit ruleId a rest world
    (call :: calls, logs ++ more, world)

end

end Delivery

/-! ## Dispatchers -/

/-- The targets of each rule, and how long one call may take. -/
structure Dispatcher (τ : Type) where
  targets : List (String × List τ)
  limit : Delivery.Duration

namespace Dispatcher

variable {τ ω : Type}

/-- A dispatcher without targets. -/
def empty (limit : Delivery.Duration) : Dispatcher τ := ⟨[], limit⟩

/-- Give a rule its targets, in place of those it had. -/
def setTargets (d : Dispatcher τ) (ruleId : String) (targets : List τ) : Dispatcher τ :=
  { d with targets := (ruleId, targets) :: d.targets.filter (·.1 != ruleId) }

/-- The targets of a rule. -/
def targetsOf (d : Dispatcher τ) (ruleId : String) : List τ :=
  (d.targets.lookup ruleId).getD []

/-- Send an alert to the targets of a rule. -/
def dispatch [Delivery.Target τ ω] (d : Dispatcher τ) (ruleId : String) (a : Alert) (world : ω) :
    List (Delivery.Call τ) × List Log.Record × ω :=
  match d.targetsOf ruleId with
  | [] => ([], [Log.debug "rule has no notification targets" [("rule_id", ruleId)]], world)
  | targets => Delivery.deliverAll d.limit ruleId a targets world

end Dispatcher

end Watchpost
