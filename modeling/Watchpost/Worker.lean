import Watchpost.Engine
import Watchpost.EventLines

set_option autoImplicit false

/-! # The worker

The worker takes one item after another from a source of events and has the engine process it. It
stops when the source is used up or fails, or when a shutdown has been asked for; that is only
looked at between two items, so that an event once taken is processed to its end. -/

namespace Watchpost

/-- What the worker counts. -/
structure Worker.Stats where
  processed : Nat := 0
  raised : Nat := 0
  malformed : Nat := 0
deriving DecidableEq, Repr, Inhabited

/-- The counts as a JSON value. -/
def Worker.Stats.members (s : Worker.Stats) : List (String × Json) :=
  [("events_processed", .ofNat s.processed), ("alerts_raised", .ofNat s.raised),
    ("malformed_events", .ofNat s.malformed)]

/-- The worker between two items. -/
structure Worker (τ ω : Type) where
  engine : Engine τ
  world : ω
  stats : Worker.Stats := {}
  logs : List Log.Record := []

namespace Worker

open Delivery (Target)

variable {τ ω : Type} [Target τ ω]

/-- Add a record to the log. -/
def log (w : Worker τ ω) (records : List Log.Record) : Worker τ ω :=
  { w with logs := w.logs ++ records }

/-- Process one event. -/
def takeEvent (w : Worker τ ω) (clock : Nat → Stamp) (e : Event) : Worker τ ω :=
  let p := w.engine.process clock e w.world
  { engine := { w.engine with tracker := p.tracker }
    world := p.world
    stats := { w.stats with processed := w.stats.processed + 1,
                            raised := w.stats.raised + p.alerts.length }
    logs := w.logs ++ p.logs ++
      if p.alerts.isEmpty then
        [Log.debug "no alerts" [("event_id", e.id), ("event_type", e.kind.name)]]
      else [] }

/-- Count an item that holds no event, and log it. -/
def takeMalformed (w : Worker τ ω) (source : String) (error : EventLines.Error) : Worker τ ω :=
  { w with
    stats := { w.stats with malformed := w.stats.malformed + 1 }
    logs := w.logs ++ [Log.warn "skipping malformed event"
      [("source", source), ("error", error.message)]] }

/-- Take an item; also whether the source goes on after it. -/
def take (w : Worker τ ω) (clock : Nat → Stamp) (source : String) (item : EventLines.Item) :
    Worker τ ω × Bool :=
  match item with
  | .ok e => (w.takeEvent clock e, true)
  | .error error =>
    if error.isRecoverable then (w.takeMalformed source error, true)
    else
      (w.log [Log.error "event source failed"
        [("source", source), ("error", error.message)]], false)

/-- Notice that a shutdown has been asked for. -/
def interrupt (w : Worker τ ω) : Worker τ ω :=
  w.log [Log.info "shutdown requested, no longer reading events" []]

/-- Notice that the source is used up. -/
def exhaust (w : Worker τ ω) (source : String) : Worker τ ω :=
  w.log [Log.info "event source exhausted" [("source", source)]]

/-- Begin with a source. -/
def begin (w : Worker τ ω) (source : String) : Worker τ ω :=
  w.log [Log.info "event loop started"
    [("source", source), ("rules", w.engine.ruleSet.rules.length.repr)]]

/-- Take items until there is none left, one of them ends the source, or a shutdown is seen.
    `shutdown n` says whether one has been asked for when `n` items have been taken; `clock n` has
    the stamps of the rules for the `n`-th item. -/
def takeAll (shutdown : Nat → Bool) (clock : Nat → Nat → Stamp) (source : String) :
    Nat → List EventLines.Item → Worker τ ω → Worker τ ω
  | taken, items, w =>
    if shutdown taken then w.interrupt
    else
      match items with
      | [] => w.exhaust source
      | item :: rest =>
        match w.take (clock taken) source item with
        | (w, true) => takeAll shutdown clock source (taken + 1) rest w
        | (w, false) => w

/-- Run the worker over the items of a source. -/
def run (w : Worker τ ω) (shutdown : Nat → Bool) (clock : Nat → Nat → Stamp) (source : String)
    (items : List EventLines.Item) : Worker τ ω :=
  takeAll shutdown clock source 0 items (w.begin source)

end Worker

end Watchpost
