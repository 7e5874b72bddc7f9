import Watchpost.Engine
import Watchpost.Proofs.Evaluation

set_option autoImplicit false

/-! # Runs of an engine

A run is a list of steps, each of which processes an event, replaces the rules or sweeps. What a run
detects does not depend on the targets of the rules, nor on the world around them:
`Engine.detections` has the alerts of a run from its rules and its tracker alone, and
`Engine.alerts_eq_detections` says that they are the ones that the engine raises. -/

namespace Watchpost

open Delivery (Duration Fault Target)

/-! ## Rules one after another -/

namespace Rule

/-- Evaluate rules one after another: the alerts raised, and the tracker that is left. -/
def detectAll (e : Event) (document : Json) :
    (Nat → Stamp) → List Rule → Tracker → List Alert × Tracker
  | _, [], t => ([], t)
  | clock, r :: rest, t =>
    let (evaluation, t) := r.evaluate e document (clock 0) t
    let (alerts, t) := detectAll e document (fun n => clock (n + 1)) rest t
    ((Evaluation.raised evaluation).toList ++ alerts, t)

theorem detectAll_cons (e : Event) (document : Json) (clock : Nat → Stamp) (r : Rule)
    (rest : List Rule) (t : Tracker) :
    detectAll e document clock (r :: rest) t
      = ((Evaluation.raised (r.evaluate e document (clock 0) t).1).toList
            ++ (detectAll e document (fun n => clock (n + 1)) rest
                (r.evaluate e document (clock 0) t).2).1,
          (detectAll e document (fun n => clock (n + 1)) rest
            (r.evaluate e document (clock 0) t).2).2) :=
  rfl

theorem detectAll_singleton (e : Event) (document : Json) (clock : Nat → Stamp) (r : Rule)
    (t : Tracker) :
    detectAll e document clock [r] t
      = ((Evaluation.raised (r.evaluate e document (clock 0) t).1).toList,
          (r.evaluate e document (clock 0) t).2) := by
  rw [detectAll_cons, detectAll, List.append_nil]

section

variable {τ ω : Type} [Target τ ω]

theorem process_alerts (r : Rule) (d : Dispatcher τ) (e : Event) (document : Json) (stamp : Stamp)
    (t : Tracker) (world : ω) :
    (r.process d e document stamp t world).alerts
      = (Evaluation.raised (r.evaluate e document stamp t).1).toList := by
  unfold process
  split <;> next heq => rw [heq]; rfl

theorem process_tracker (r : Rule) (d : Dispatcher τ) (e : Event) (document : Json) (stamp : Stamp)
    (t : Tracker) (world : ω) :
    (r.process d e document stamp t world).tracker = (r.evaluate e document stamp t).2 := by
  unfold process
  split <;> next heq => rw [heq]

/-- What rules detect in an event does not depend on what becomes of the alerts. -/
theorem processAll_eq_detectAll (d : Dispatcher τ) (e : Event) (document : Json)
    (clock : Nat → Stamp) (rules : List Rule) (t : Tracker) (world : ω) :
    ((processAll d e document clock rules t world).alerts,
        (processAll d e document clock rules t world).tracker)
      = detectAll e document clock rules t := by
  induction rules generalizing clock t world with
  | nil => rfl
  | cons r rest ih =>
    rw [detectAll_cons, ← process_tracker r d e document (clock 0) t world,
      ← process_alerts r d e document (clock 0) t world,
      ← ih (fun n => clock (n + 1)) _ (r.process d e document (clock 0) t world).world]
    rfl

end

end Rule

/-! ## Steps and runs -/

namespace Engine

/-- A step of an engine. -/
inductive Step where
  | process (clock : Nat → Stamp) (e : Event)
  | reload (rules : List Rule)
  | sweep (now : Instant) (retention : Nat)

section

variable {τ ω : Type} [Target τ ω] (build : ChannelConfig → Except Fault τ) (limit : Duration)

/-- Take a step: the alerts raised, and the engine and the world that are left. -/
def apply (en : Engine τ) (world : ω) : Step → List Alert × Engine τ × ω
  | .process clock e =>
    let p := en.process clock e world
    (p.alerts, { en with tracker := p.tracker }, p.world)
  | .reload rules => ([], (en.reload build limit rules).1, world)
  | .sweep now retention => ([], en.sweep now retention, world)

/-- Take steps one after another: all alerts, and the engine and the world that are left. -/
def run (en : Engine τ) (world : ω) : List Step → List Alert × Engine τ × ω
  | [] => ([], en, world)
  | s :: rest =>
    let (alerts, en, world) := en.apply build limit world s
    let (more, en, world) := run en world rest
    (alerts ++ more, en, world)

/-- The alerts that an engine raises in a run, in their order. -/
def alerts (en : Engine τ) (world : ω) (steps : List Step) : List Alert :=
  (en.run build limit world steps).1

end

/-- The alerts of a run that begins with some rules and a tracker. -/
def detections : List Rule → Tracker → List Step → List Alert
  | _, _, [] => []
  | rules, t, .process clock e :: rest =>
    let (alerts, t) := Rule.detectAll e e.document clock rules t
    alerts ++ detections rules t rest
  | _, t, .reload rules :: rest => detections rules t rest
  | rules, t, .sweep now retention :: rest => detections rules (t.sweep now retention).2 rest

theorem detections_process (rules : List Rule) (t : Tracker) (clock : Nat → Stamp) (e : Event)
    (rest : List Step) :
    detections rules t (.process clock e :: rest)
      = (Rule.detectAll e e.document clock rules t).1
          ++ detections rules (Rule.detectAll e e.document clock rules t).2 rest :=
  rfl

/-- **An engine raises what its rules detect**, whatever its targets do. -/
theorem alerts_eq_detections {τ ω : Type} [Target τ ω] (build : ChannelConfig → Except Fault τ)
    (limit : Duration) (en : Engine τ) (world : ω) (steps : List Step) :
    en.alerts build limit world steps = detections en.ruleSet.rules en.tracker steps := by
  induction steps generalizing en world with
  | nil => rfl
  | cons s rest ih =>
    have hcons : en.alerts build limit world (s :: rest)
        = (en.apply build limit world s).1 ++ (en.apply build limit world s).2.1.alerts build limit
            (en.apply build limit world s).2.2 rest := rfl
    rw [hcons, ih]
    cases s with
    | process clock e =>
      have hdetect := Rule.processAll_eq_detectAll en.ruleSet.dispatcher e e.document clock
        en.ruleSet.rules en.tracker world
      rw [detections_process, ← hdetect]
      rfl
    | reload rules => rfl
    | sweep now retention => rfl

/-! ## Events one after another -/

/-- The alerts of an event are what the rules detect in it. -/
theorem alerts_process {τ ω : Type} [Target τ ω] (en : Engine τ) (clock : Nat → Stamp) (e : Event)
    (world : ω) :
    (en.process clock e world).alerts
      = (Rule.detectAll e e.document clock en.ruleSet.rules en.tracker).1 :=
  congrArg Prod.fst (Rule.processAll_eq_detectAll en.ruleSet.dispatcher e e.document clock
    en.ruleSet.rules en.tracker world)

theorem tracker_process {τ ω : Type} [Target τ ω] (en : Engine τ) (clock : Nat → Stamp) (e : Event)
    (world : ω) :
    (en.process clock e world).tracker
      = (Rule.detectAll e e.document clock en.ruleSet.rules en.tracker).2 :=
  congrArg Prod.snd (Rule.processAll_eq_detectAll en.ruleSet.dispatcher e e.document clock
    en.ruleSet.rules en.tracker world)

/-- An event that reaches an engine in a world `ω`. -/
structure Arrival (ω : Type) where
  /-- The stamps of the rules. -/
  clock : Nat → Stamp
  event : Event
  /-- What becomes of the world between the event before it and this one. -/
  meanwhile : ω → ω := id

/-- Process events one after another: the alerts of each, and the engine and the world that are
    left. -/
def processEach {τ ω : Type} [Target τ ω] (en : Engine τ) (world : ω) :
    List (Arrival ω) → List (List Alert) × Engine τ × ω
  | [] => ([], en, world)
  | x :: rest =>
    let p := en.process x.clock x.event (x.meanwhile world)
    let (alerts, en, world) := processEach { en with tracker := p.tracker } p.world rest
    (p.alerts :: alerts, en, world)

end Engine

end Watchpost
