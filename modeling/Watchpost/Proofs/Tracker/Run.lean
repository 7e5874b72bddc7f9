import Watchpost.Proofs.Instant
import Watchpost.Proofs.Tracker.Store

set_option autoImplicit false

/-! # Runs of a tracker

A run is a list of calls, each of which tracks an event or sweeps. What a run makes of one key is
its `Tracker.history`: the tracked calls of the key with their outcomes. It depends on the place of
that key alone. `Tracker.Touch` is what a call does to one place, `Tracker.placeHistory` follows one
place through the touches of a run, and `Tracker.history_eq_placeHistory` says that the two agree,
however the calls of other keys stand between those of the key. -/

namespace Watchpost.Tracker

/-! ## Calls and runs -/

/-- A call on a tracker. -/
inductive Step where
  | track (ruleId : String) (document : Json) (a : Rule.Aggregation) (now : Instant)
  | sweep (now : Instant) (retention : Nat)

namespace Step

/-- When a call is made. -/
def time : Step → Instant
  | .track _ _ _ now => now
  | .sweep now _ => now

/-- The key under which a call counts its event. -/
def key? : Step → Option Key
  | .track ruleId document a _ => (Path.groupingTextAt document a.field).map fun v => ⟨ruleId, v⟩
  | .sweep _ _ => none

/-- Whether a call tracks an event. -/
def isTrack : Step → Bool
  | .track .. => true
  | .sweep .. => false

end Step

/-- Make a call; also the outcome, if it tracks an event. -/
def apply (t : Tracker) : Step → Option Outcome × Tracker
  | .track ruleId document a now =>
    let (outcome, t) := t.track ruleId document a now
    (some outcome, t)
  | .sweep now retention => (none, (t.sweep now retention).2)

/-- Make calls one after another; also the outcome of each. -/
def run (t : Tracker) : List Step → List (Option Outcome) × Tracker
  | [] => ([], t)
  | s :: rest =>
    let (outcome, t) := t.apply s
    let (outcomes, t) := run t rest
    (outcome :: outcomes, t)

/-- The outcomes of the calls of a run that track an event, in their order. -/
def outcomes (t : Tracker) (steps : List Step) : List Outcome :=
  (t.run steps).1.filterMap id

/-- A tracked call of some key. -/
structure Call where
  time : Instant
  outcome : Outcome
deriving DecidableEq, Repr

/-- The entry that a call makes in the history of a key. -/
def callOf (key : Key) (s : Step) (outcome : Option Outcome) : Option Call :=
  if s.key? = some key then outcome.map fun o => ⟨s.time, o⟩ else none

/-- The tracked calls of a key in a run, in their order. -/
def history (t : Tracker) (key : Key) (steps : List Step) : List Call :=
  (steps.zip (t.run steps).1).filterMap fun (s, outcome) => callOf key s outcome

/-! ## Conditions on runs -/

/-- No call is made earlier than one before it. -/
def Chronological (steps : List Step) : Prop :=
  steps.Pairwise fun s s' => s.time ≤ s'.time

/-- No call is made within a leap second. -/
def Regular (steps : List Step) : Prop :=
  ∀ s ∈ steps, s.time.IsRegular

/-- All events of a rule are tracked with one aggregation. -/
def Uniform (ruleId : String) (a : Rule.Aggregation) (steps : List Step) : Prop :=
  ∀ document a' now, Step.track ruleId document a' now ∈ steps → a' = a

/-- No sweep has a retention shorter than a window. -/
def Retaining (a : Rule.Aggregation) (steps : List Step) : Prop :=
  ∀ now retention, Step.sweep now retention ∈ steps → a.window ≤ retention

instance (steps : List Step) : Decidable (Chronological steps) :=
  inferInstanceAs (Decidable (steps.Pairwise _))

instance (steps : List Step) : Decidable (Regular steps) :=
  inferInstanceAs (Decidable (∀ s ∈ steps, _))

/-- A run that tracks a failed login from one address at each of some instants. -/
def loginsAt (a : Rule.Aggregation) (times : List Instant) : List Step :=
  times.map fun now => .track "failed-login" (.object [("ip", .string "10.0.0.9")]) a now

/-- The key of these logins, where they are counted by address. -/
def loginKey : Key := ⟨"failed-login", "10.0.0.9"⟩

theorem uniform_loginsAt (a : Rule.Aggregation) (times : List Instant) (ruleId : String) :
    Uniform ruleId a (loginsAt a times) := by
  intro document a' now h
  simp only [loginsAt, List.mem_map, Step.track.injEq] at h
  obtain ⟨_, -, -, -, rfl, -⟩ := h
  rfl

theorem retaining_loginsAt (a a' : Rule.Aggregation) (times : List Instant) :
    Retaining a' (loginsAt a times) := by
  intro now retention h
  simp [loginsAt] at h

/-! ## Calls one by one -/

theorem HasUniqueKeys.apply {t : Tracker} (h : t.HasUniqueKeys) (s : Step) :
    (t.apply s).2.HasUniqueKeys := by
  cases s with
  | track ruleId document a now => exact h.track ruleId document a now
  | sweep now retention => exact h.sweep now retention

theorem HasUniqueKeys.run {t : Tracker} (h : t.HasUniqueKeys) (steps : List Step) :
    (t.run steps).2.HasUniqueKeys := by
  induction steps generalizing t with
  | nil => exact h
  | cons s rest ih => exact ih (h.apply s)

theorem outcomes_cons (t : Tracker) (s : Step) (rest : List Step) :
    t.outcomes (s :: rest) = (t.apply s).1.toList ++ (t.apply s).2.outcomes rest := by
  cases h : (t.apply s).1 <;> simp [outcomes, run, h]

theorem history_cons (t : Tracker) (key : Key) (s : Step) (rest : List Step) :
    t.history key (s :: rest)
      = (callOf key s (t.apply s).1).toList ++ (t.apply s).2.history key rest := by
  cases h : callOf key s (t.apply s).1 <;> simp [history, run, h]

/-- A call that tracks an event under a key counts it in the place of that key. -/
theorem track_of_key {ruleId : String} {document : Json} {a : Rule.Aggregation} {now : Instant}
    {key : Key} (h : (Step.track ruleId document a now).key? = some key) (t : Tracker) :
    t.track ruleId document a now = t.trackKey key a now := by
  simp only [Step.key?, Option.map_eq_some_iff] at h
  obtain ⟨v, hv, rfl⟩ := h
  simp only [track, hv]

/-- A call that tracks an event under no key leaves the tracker as it is. -/
theorem track_of_key_none {ruleId : String} {document : Json} {a : Rule.Aggregation}
    {now : Instant} (h : (Step.track ruleId document a now).key? = none) (t : Tracker) :
    t.track ruleId document a now = (.untracked, t) := by
  simp only [Step.key?, Option.map_eq_none_iff] at h
  simp only [track, h]

/-- A call that tracks an event elsewhere leaves the place of a key as it is. -/
theorem find?_track_of_key_ne {ruleId : String} {document : Json} {a : Rule.Aggregation}
    {now : Instant} {key : Key} (h : (Step.track ruleId document a now).key? ≠ some key)
    (t : Tracker) : (t.track ruleId document a now).2.find? key = t.find? key := by
  cases hkey : (Step.track ruleId document a now).key? with
  | none => rw [track_of_key_none hkey]
  | some k =>
    have hne : key ≠ k := fun he => h (he ▸ hkey)
    rw [track_of_key hkey, find?_trackKey, if_neg hne]

/-- The key under which an event of a rule is tracked is one of that rule. -/
theorem ruleId_of_key {ruleId : String} {document : Json} {a : Rule.Aggregation} {now : Instant}
    {key : Key} (h : (Step.track ruleId document a now).key? = some key) :
    key.ruleId = ruleId := by
  simp only [Step.key?, Option.map_eq_some_iff] at h
  obtain ⟨v, -, rfl⟩ := h
  rfl

/-! ## One place -/

/-- What a call does to the place of a key. -/
inductive Touch where
  | track (a : Rule.Aggregation) (now : Instant)
  | sweep (now : Instant) (retention : Nat)

/-- When a place is touched. -/
def Touch.time : Touch → Instant
  | .track _ now => now
  | .sweep now _ => now

/-- How a call touches the place of a key: a call that tracks an event elsewhere does not. -/
def Step.touch? (key : Key) (s : Step) : Option Touch :=
  match s with
  | .track _ _ a now => if s.key? = some key then some (.track a now) else none
  | .sweep now retention => some (.sweep now retention)

/-- How a run touches the place of a key. -/
def touches (key : Key) (steps : List Step) : List Touch :=
  steps.filterMap (Step.touch? key)

theorem touches_track_of_key {ruleId : String} {document : Json} {a : Rule.Aggregation}
    {now : Instant} {key : Key} (h : (Step.track ruleId document a now).key? = some key)
    (rest : List Step) :
    touches key (.track ruleId document a now :: rest) = .track a now :: touches key rest := by
  simp [touches, Step.touch?, h]

theorem touches_track_of_key_ne {ruleId : String} {document : Json} {a : Rule.Aggregation}
    {now : Instant} {key : Key} (h : (Step.track ruleId document a now).key? ≠ some key)
    (rest : List Step) :
    touches key (.track ruleId document a now :: rest) = touches key rest := by
  simp [touches, Step.touch?, h]

theorem touches_sweep (key : Key) (now : Instant) (retention : Nat) (rest : List Step) :
    touches key (.sweep now retention :: rest) = .sweep now retention :: touches key rest := by
  simp [touches, Step.touch?]

/-- The tracked calls among the touches of a place, which holds `slot` before them. -/
def placeHistory : Option Bucket → List Touch → List Call
  | _, [] => []
  | slot, .track a now :: rest =>
    let (outcome, b) := trackPlace slot a now
    ⟨now, outcome⟩ :: placeHistory (some b) rest
  | slot, .sweep now retention :: rest =>
    placeHistory (slot.filter (·.isKept now retention)) rest

theorem placeHistory_track (slot : Option Bucket) (a : Rule.Aggregation) (now : Instant)
    (rest : List Touch) :
    placeHistory slot (.track a now :: rest)
      = ⟨now, (trackPlace slot a now).1⟩ :: placeHistory (some (trackPlace slot a now).2) rest :=
  rfl

theorem placeHistory_sweep (slot : Option Bucket) (now : Instant) (retention : Nat)
    (rest : List Touch) :
    placeHistory slot (.sweep now retention :: rest)
      = placeHistory (slot.filter (·.isKept now retention)) rest :=
  rfl

/-- **The history of a key is that of its place**: calls of other keys do not show in it. -/
theorem history_eq_placeHistory {t : Tracker} (h : t.HasUniqueKeys) (key : Key)
    (steps : List Step) : t.history key steps = placeHistory (t.find? key) (touches key steps) := by
  -- The tracker changes with every call, but its place under `key` only with the touches.
  induction steps generalizing t with
  | nil => rfl
  | cons s rest ih =>
    rw [history_cons, ih (h.apply s)]
    cases s with
    | track ruleId document a now =>
      by_cases hkey : (Step.track ruleId document a now).key? = some key
      · rw [touches_track_of_key hkey, placeHistory_track]
        simp only [apply, track_of_key hkey, callOf, if_pos hkey, trackKey_fst, find?_trackKey]
        rfl
      · rw [touches_track_of_key_ne hkey]
        simp only [apply, callOf, if_neg hkey, find?_track_of_key_ne hkey]
        rfl
    | sweep now retention =>
      rw [touches_sweep, placeHistory_sweep]
      simp only [apply, find?_sweep h]
      rfl

/-- What a place holds after it has been touched. -/
def placeAfter : Option Bucket → List Touch → Option Bucket
  | slot, [] => slot
  | slot, .track a now :: rest => placeAfter (some (trackPlace slot a now).2) rest
  | slot, .sweep now retention :: rest => placeAfter (slot.filter (·.isKept now retention)) rest

/-- A run leaves in the place of a key what the touches of that place leave in it. -/
theorem find?_run {t : Tracker} (h : t.HasUniqueKeys) (key : Key) (steps : List Step) :
    (t.run steps).2.find? key = placeAfter (t.find? key) (touches key steps) := by
  induction steps generalizing t with
  | nil => rfl
  | cons s rest ih =>
    have hcons : (t.run (s :: rest)).2 = ((t.apply s).2.run rest).2 := rfl
    rw [hcons, ih (h.apply s)]
    cases s with
    | track ruleId document a now =>
      by_cases hkey : (Step.track ruleId document a now).key? = some key
      · rw [touches_track_of_key hkey, placeAfter]
        simp only [apply, track_of_key hkey, find?_trackKey, if_true]
      · rw [touches_track_of_key_ne hkey]
        simp only [apply, find?_track_of_key_ne hkey]
    | sweep now retention =>
      rw [touches_sweep, placeAfter]
      simp only [apply, find?_sweep h]

/-- A key has an entry in its history for each call that counts an event under it. -/
theorem length_history (t : Tracker) (key : Key) (steps : List Step) :
    (t.history key steps).length = steps.countP fun s => s.key? = some key := by
  induction steps generalizing t with
  | nil => rfl
  | cons s rest ih =>
    rw [history_cons, List.length_append, ih, List.countP_cons, Nat.add_comm]
    congr 1
    by_cases hkey : s.key? = some key
    · cases s with
      | track ruleId document a now => simp [callOf, hkey, apply]
      | sweep now retention => simp [Step.key?] at hkey
    · simp [callOf, hkey]

/-! ## Conditions on the touches of a place -/

theorem mem_touches_track {key : Key} {steps : List Step} {a : Rule.Aggregation} {now : Instant}
    (h : .track a now ∈ touches key steps) :
    ∃ document, Step.track key.ruleId document a now ∈ steps := by
  obtain ⟨s, hs, htouch⟩ := List.mem_filterMap.1 h
  cases s with
  | track ruleId document a' now' =>
    simp only [Step.touch?] at htouch
    split at htouch
    · next hkey =>
      simp only [Option.some.injEq, Touch.track.injEq] at htouch
      obtain ⟨rfl, rfl⟩ := htouch
      rw [ruleId_of_key hkey]
      exact ⟨document, hs⟩
    · simp at htouch
  | sweep now' retention => simp [Step.touch?] at htouch

theorem mem_touches_sweep {key : Key} {steps : List Step} {now : Instant} {retention : Nat}
    (h : .sweep now retention ∈ touches key steps) : Step.sweep now retention ∈ steps := by
  obtain ⟨s, hs, htouch⟩ := List.mem_filterMap.1 h
  cases s with
  | track ruleId document a now' =>
    simp only [Step.touch?] at htouch
    split at htouch <;> simp at htouch
  | sweep now' retention' =>
    simp only [Step.touch?, Option.some.injEq, Touch.sweep.injEq] at htouch
    obtain ⟨rfl, rfl⟩ := htouch
    exact hs

theorem time_of_touch {key : Key} {s : Step} {x : Touch} (h : s.touch? key = some x) :
    x.time = s.time := by
  cases s with
  | track ruleId document a now =>
    simp only [Step.touch?] at h
    split at h
    · cases h
      rfl
    · simp at h
  | sweep now retention =>
    cases h
    rfl

theorem exists_step_of_mem_touches {key : Key} {steps : List Step} {x : Touch}
    (h : x ∈ touches key steps) : ∃ s ∈ steps, s.time = x.time := by
  obtain ⟨s, hs, htouch⟩ := List.mem_filterMap.1 h
  exact ⟨s, hs, (time_of_touch htouch).symm⟩

/-- Touches by one aggregation, in the order of their instants. -/
structure Orderly (a : Rule.Aggregation) (xs : List Touch) : Prop where
  uniform : ∀ a' now, .track a' now ∈ xs → a' = a
  chronological : xs.Pairwise fun x y => x.time ≤ y.time

theorem orderly_touches {steps : List Step} {key : Key} {a : Rule.Aggregation}
    (huniform : Uniform key.ruleId a steps) (hchron : Chronological steps) :
    Orderly a (touches key steps) where
  uniform := by
    intro a' now h
    obtain ⟨document, hstep⟩ := mem_touches_track h
    exact huniform document a' now hstep
  chronological := by
    refine List.Pairwise.filterMap _ (fun s s' hle x hx y hy => ?_) hchron
    rw [time_of_touch hx, time_of_touch hy]
    exact hle

theorem Orderly.tail {a : Rule.Aggregation} {x : Touch} {xs : List Touch}
    (h : Orderly a (x :: xs)) : Orderly a xs where
  uniform a' now hmem := h.uniform a' now (List.mem_cons_of_mem x hmem)
  chronological := (List.pairwise_cons.1 h.chronological).2

theorem Orderly.head_le {a : Rule.Aggregation} {x : Touch} {xs : List Touch}
    (h : Orderly a (x :: xs)) : ∀ y ∈ xs, x.time ≤ y.time :=
  (List.pairwise_cons.1 h.chronological).1

end Watchpost.Tracker
