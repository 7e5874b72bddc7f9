import Watchpost.Instant
import Watchpost.Path
import Watchpost.Rule

set_option autoImplicit false

/-! # Counting events over tumbling windows

A tracker holds a bucket for each pair of a rule and a grouping value. Tracking an event adds one
to its bucket; a bucket whose window is over starts a new window with the event, and a bucket that
reaches the threshold of its rule triggers and starts afresh. Sweeping removes the buckets that have
been idle for too long. -/

namespace Watchpost

/-! ## Buckets -/

/-- What a bucket is kept under: a rule and a grouping value. -/
structure Tracker.Key where
  ruleId : String
  value : String
deriving DecidableEq, Repr, Inhabited

/-- How many events a window has seen. -/
structure Tracker.Bucket where
  count : Nat
  windowStart : Instant
  lastSeen : Instant
deriving DecidableEq, Repr, Inhabited

/-- The answer to one tracked event: the count with it, and whether that reached the threshold. -/
structure Tracker.Outcome where
  triggered : Bool
  count : Nat
deriving DecidableEq, Repr, Inhabited

/-- The buckets of all rules. Each key has at most one. -/
structure Tracker where
  buckets : List (Tracker.Key × Tracker.Bucket)
deriving Repr, Inhabited

namespace Tracker

/-- The answer to an event without a grouping value. -/
def Outcome.untracked : Outcome := ⟨false, 0⟩

/-- A bucket that has seen nothing yet. -/
def Bucket.fresh (now : Instant) : Bucket := ⟨0, now, now⟩

/-- A bucket, with a new window if the old one is over: an event exactly one window length after
    its start still falls into it. -/
def Bucket.roll (a : Rule.Aggregation) (now : Instant) (b : Bucket) : Bucket :=
  if now.since b.windowStart > a.window then { b with count := 0, windowStart := now } else b

/-- Count one event in a bucket. -/
def Bucket.track (a : Rule.Aggregation) (now : Instant) (b : Bucket) : Outcome × Bucket :=
  let rolled := b.roll a now
  let count := rolled.count + 1
  if a.threshold ≤ count then (⟨true, count⟩, ⟨0, now, now⟩)
  else (⟨false, count⟩, ⟨count, rolled.windowStart, now⟩)

/-! ## The store -/

/-- A tracker without buckets. -/
def empty : Tracker := ⟨[]⟩

/-- The bucket under a key. -/
def find? (t : Tracker) (key : Key) : Option Bucket :=
  t.buckets.lookup key

/-- Put a bucket under a key of a list of buckets. -/
def place (key : Key) (b : Bucket) : List (Key × Bucket) → List (Key × Bucket)
  | [] => [(key, b)]
  | (k, old) :: rest => if k = key then (key, b) :: rest else (k, old) :: place key b rest

/-- Put a bucket under a key. -/
def insert (t : Tracker) (key : Key) (b : Bucket) : Tracker :=
  ⟨place key b t.buckets⟩

/-- Count one event under a key. -/
def trackKey (t : Tracker) (key : Key) (a : Rule.Aggregation) (now : Instant) : Outcome × Tracker :=
  let (outcome, bucket) := ((t.find? key).getD (.fresh now)).track a now
  (outcome, t.insert key bucket)

/-- Count one event of a rule by the grouping value in its document. An event without one leaves
    every bucket as it is. -/
def track (t : Tracker) (ruleId : String) (document : Json) (a : Rule.Aggregation) (now : Instant) :
    Outcome × Tracker :=
  match Path.groupingTextAt document a.field with
  | none => (.untracked, t)
  | some value => t.trackKey ⟨ruleId, value⟩ a now

/-! ## Eviction -/

/-- Nanoseconds in a millisecond. -/
def millisecond : Nat := 1000000

/-- How long a bucket has been idle in whole milliseconds, cut toward zero. -/
def Bucket.idleMillis (now : Instant) (b : Bucket) : Int :=
  (now.since b.lastSeen).tdiv millisecond

/-- A retention in whole milliseconds, within a signed word. -/
def retentionMillis (retention : Nat) : Int :=
  min ((retention / millisecond : Nat) : Int) 9223372036854775807

/-- Whether a bucket outlives a sweep. -/
def Bucket.isKept (now : Instant) (retention : Nat) (b : Bucket) : Bool :=
  decide (b.idleMillis now ≤ retentionMillis retention)

/-- Remove the buckets that have been idle for longer than a retention, given in nanoseconds; also
    the number removed. -/
def sweep (t : Tracker) (now : Instant) (retention : Nat) : Nat × Tracker :=
  let kept := t.buckets.filter fun (_, b) => b.isKept now retention
  (t.buckets.length - kept.length, ⟨kept⟩)

/-! ## Views -/

/-- The count under a rule and a grouping value. -/
def count? (t : Tracker) (ruleId value : String) : Option Nat :=
  (t.find? ⟨ruleId, value⟩).map (·.count)

/-- The number of buckets. -/
def size (t : Tracker) : Nat :=
  t.buckets.length

/-- Keys in the order of rules, those of one rule in the order of values. -/
def Key.atMost (a b : Key) : Bool :=
  if a.ruleId = b.ruleId then decide (a.value ≤ b.value) else decide (a.ruleId ≤ b.ruleId)

/-- All buckets in the order of their keys. -/
def snapshot (t : Tracker) : List (Key × Bucket) :=
  t.buckets.mergeSort fun a b => a.1.atMost b.1

end Tracker

end Watchpost
