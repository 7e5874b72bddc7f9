import Watchpost.Log
import Watchpost.Tracker

set_option autoImplicit false

/-! # Periodic sweeps

A sweeper sweeps a tracker once every interval after its start, until it is stopped. Time passes in
steps: `Sweeper.sleep` lets a number of milliseconds go by and does the sweeps that fall due. -/

namespace Watchpost

/-- A running sweeper. Interval and elapsed time are in milliseconds, the retention in
    nanoseconds. -/
structure Sweeper where
  interval : Nat
  retention : Nat
  elapsed : Nat
deriving DecidableEq, Repr, Inhabited

namespace Sweeper

/-- Nanoseconds in a second. -/
def second : Nat := 1000000000

/-- Start a sweeper; also what it logs. -/
def start (interval retention : Nat) : Sweeper × List Log.Record :=
  (⟨interval, retention, 0⟩,
    [Log.info "aggregation sweeper started"
      [("interval_secs", (interval / 1000).repr), ("retention_secs", (retention / second).repr)]])

/-- How many sweeps fall due while a number of milliseconds goes by. -/
def due (s : Sweeper) (millis : Nat) : Nat :=
  (s.elapsed + millis) / s.interval - s.elapsed / s.interval

/-- One sweep, and what is logged about it: nothing, if it evicts no bucket. -/
def tick (s : Sweeper) (now : Instant) (t : Tracker) : Tracker × List Log.Record :=
  let (evicted, t) := t.sweep now s.retention
  (t, if evicted = 0 then []
    else [Log.debug "evicted idle aggregation buckets"
      [("evicted", evicted.repr), ("remaining", t.size.repr)]])

/-- Let time go by. Sweeps at one reading of the clock amount to a single one, since the first
    leaves nothing to evict. -/
def sleep (s : Sweeper) (millis : Nat) (now : Instant) (t : Tracker) :
    Sweeper × Tracker × List Log.Record :=
  let s' := { s with elapsed := s.elapsed + millis }
  if s.due millis = 0 then (s', t, [])
  else (s', s.tick now t)

/-- The time of the last sweep of a sweeper that was started at an instant. -/
def lastTick (s : Sweeper) (start : Instant) : Instant :=
  Instant.ofSinceEpoch (start.sinceEpoch + (s.elapsed / s.interval * s.interval * 1000000 : Nat))

/-- Let the time pass that lies between an instant and the time that a sweeper has come to. Between
    two sweeps nothing else happens, so that the last of them amounts to all. -/
def catchUp (s : Sweeper) (start now : Instant) (t : Tracker) :
    Sweeper × Tracker × List Log.Record :=
  let millis := ((now.since start) / 1000000).toNat - s.elapsed
  s.sleep millis ({ s with elapsed := s.elapsed + millis }.lastTick start) t

/-- What a sweeper logs when it is told to stop. -/
def stopped : List Log.Record :=
  [Log.info "aggregation sweeper stopping" []]

/-- Whether a sweeper can run: an interval of zero ends it at once. -/
def canRun (s : Sweeper) : Bool :=
  s.interval != 0

end Sweeper

end Watchpost
