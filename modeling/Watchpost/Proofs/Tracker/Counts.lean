import Watchpost.Proofs.Tracker.Run

set_option autoImplicit false

/-! # Counts fit a word

A tracked event leaves a count below the threshold that it was tracked with, whatever was counted
before: a count that reaches the threshold starts anew. So what bounds the count of a bucket is the
aggregation that was last used on its key, not the one that the next event brings, and neither
windows that end nor sweeps nor changed thresholds can raise it. Thresholds are words of 64 bits;
`Tracker.counts_fit` says that then all counts are, and the one after any next event. -/

namespace Watchpost.Tracker

/-! ## One event -/

theorem count_roll_le (a : Rule.Aggregation) (now : Instant) (b : Bucket) :
    (b.roll a now).count ≤ b.count := by
  rcases roll_cases a now b with ⟨-, hroll⟩ | ⟨-, hroll⟩
  · exact Nat.le_of_eq (congrArg Bucket.count hroll)
  · rw [hroll]
    exact Nat.zero_le _

/-- Whatever a bucket counts, an event leaves it below the threshold, or at zero. -/
theorem count_track_lt (a : Rule.Aggregation) (now : Instant) (b : Bucket) :
    (b.track a now).2.count < max 1 a.threshold := by
  rcases track_cases a now b with ⟨hlt, htrack⟩ | ⟨-, htrack⟩
  · rw [htrack]
    exact Nat.lt_of_lt_of_le hlt (Nat.le_max_right 1 a.threshold)
  · rw [htrack]
    exact Nat.lt_of_lt_of_le Nat.one_pos (Nat.le_max_left 1 a.threshold)

/-- The count with an event is at most one more than the count before it. -/
theorem count_outcome_le (a : Rule.Aggregation) (now : Instant) (b : Bucket) :
    (b.track a now).1.count ≤ b.count + 1 := by
  have hroll := count_roll_le a now b
  rcases track_cases a now b with ⟨-, htrack⟩ | ⟨-, htrack⟩
  · rw [htrack]
    exact Nat.succ_le_succ hroll
  · rw [htrack]
    exact Nat.succ_le_succ hroll

/-! ## One place -/

/-- The aggregation with which a touch tracks an event. -/
def Touch.aggregation? : Touch → Option Rule.Aggregation
  | .track a _ => some a
  | .sweep _ _ => none

/-- The aggregation with which the last event among some touches was tracked. -/
def lastAggregation (xs : List Touch) : Option Rule.Aggregation :=
  (xs.filterMap Touch.aggregation?).getLast?

/-- The aggregation with which the last event of a key in a run was tracked. -/
def lastTracked (key : Key) (steps : List Step) : Option Rule.Aggregation :=
  lastAggregation (touches key steps)

/-- If a place holds a bucket, an event has been tracked there, last of all with `last`, and the
    bucket counts less than its threshold. -/
def BelowThreshold (last : Option Rule.Aggregation) (slot : Option Bucket) : Prop :=
  ∀ b, slot = some b → ∃ a, last = some a ∧ b.count < max 1 a.threshold

theorem belowThreshold_none (last : Option Rule.Aggregation) : BelowThreshold last none := by
  intro b h
  exact absurd h (by simp)

theorem belowThreshold_track (slot : Option Bucket) (a : Rule.Aggregation) (now : Instant) :
    BelowThreshold (some a) (some (trackPlace slot a now).2) := by
  intro b h
  obtain rfl := Option.some.inj h
  exact ⟨a, rfl, count_track_lt a now _⟩

theorem BelowThreshold.filter {last : Option Rule.Aggregation} {slot : Option Bucket}
    (h : BelowThreshold last slot) (keep : Bucket → Bool) :
    BelowThreshold last (slot.filter keep) := by
  intro b hb
  exact h b (Option.filter_eq_some_iff.1 hb).1

theorem lastAggregation_track (a : Rule.Aggregation) (now : Instant) (xs : List Touch) :
    lastAggregation (.track a now :: xs) = (lastAggregation xs).or (some a) := by
  simp [lastAggregation, Touch.aggregation?, List.getLast?_cons]

theorem lastAggregation_sweep (now : Instant) (retention : Nat) (xs : List Touch) :
    lastAggregation (.sweep now retention :: xs) = lastAggregation xs := by
  simp [lastAggregation, Touch.aggregation?]

theorem BelowThreshold.placeAfter {last : Option Rule.Aggregation} {slot : Option Bucket}
    (h : BelowThreshold last slot) (xs : List Touch) :
    BelowThreshold ((lastAggregation xs).or last) (placeAfter slot xs) := by
  induction xs generalizing last slot with
  | nil => exact h
  | cons x rest ih =>
    cases x with
    | track a now =>
      -- From here on it is `a` that bounds the count, until another event is tracked.
      rw [lastAggregation_track, Option.or_assoc]
      exact ih (belowThreshold_track slot a now)
    | sweep now retention =>
      rw [lastAggregation_sweep]
      exact ih (h.filter _)

/-! ## Runs -/

/-- The bucket of a key counts less than the aggregation that was last used on the key asks for. -/
theorem count_lt_of_find?_run {steps : List Step} {key : Key} {b : Bucket}
    (h : (empty.run steps).2.find? key = some b) :
    ∃ a, lastTracked key steps = some a ∧ b.count < max 1 a.threshold := by
  rw [find?_run hasUniqueKeys_empty, find?_empty] at h
  have hbelow := (belowThreshold_none none).placeAfter (touches key steps)
  rw [Option.or_none] at hbelow
  exact hbelow b h

theorem exists_track_of_lastTracked {steps : List Step} {key : Key} {a : Rule.Aggregation}
    (h : lastTracked key steps = some a) :
    ∃ document now, Step.track key.ruleId document a now ∈ steps := by
  obtain ⟨x, hx, ha⟩ := List.mem_filterMap.1 (List.mem_of_getLast? h)
  cases x with
  | track a' now =>
    obtain rfl := Option.some.inj ha
    obtain ⟨document, hstep⟩ := mem_touches_track hx
    exact ⟨document, now, hstep⟩
  | sweep now retention => exact absurd ha (by simp [Touch.aggregation?])

/-- All thresholds in a run are words of 64 bits. -/
def ThresholdsFit (steps : List Step) : Prop :=
  ∀ ruleId document a now, Step.track ruleId document a now ∈ steps → a.threshold < UInt64.size

/-- Adding one to the count of a bucket gives a word. -/
theorem count_add_one_lt {steps : List Step} (hfit : ThresholdsFit steps) {key : Key} {b : Bucket}
    (h : (empty.run steps).2.find? key = some b) : b.count + 1 < UInt64.size := by
  obtain ⟨a, ha, hlt⟩ := count_lt_of_find?_run h
  obtain ⟨document, now, hstep⟩ := exists_track_of_lastTracked ha
  have hthreshold : a.threshold < UInt64.size := hfit _ document a now hstep
  have hsize : UInt64.size = 18446744073709551616 := rfl
  omega

/-- The count with the next event is a word, with whatever aggregation that event is tracked. -/
theorem count_track_lt_size {steps : List Step} (hfit : ThresholdsFit steps) (ruleId : String)
    (document : Json) (a : Rule.Aggregation) (now : Instant) :
    ((empty.run steps).2.track ruleId document a now).1.count < UInt64.size := by
  cases hkey : (Step.track ruleId document a now).key? with
  | none =>
    rw [track_of_key_none hkey]
    exact (by decide : (0 : Nat) < UInt64.size)
  | some key =>
    rw [track_of_key hkey, trackKey_fst, trackPlace]
    cases hslot : (empty.run steps).2.find? key with
    | none =>
      have hle := count_outcome_le a now (.fresh now)
      exact Nat.lt_of_le_of_lt hle (by decide : (0 + 1 : Nat) < UInt64.size)
    | some b => exact Nat.lt_of_le_of_lt (count_outcome_le a now b) (count_add_one_lt hfit hslot)

/-- **Counts never leave a word.** After any run, with instants in any order and thresholds that may
    change from event to event, a bucket counts less than the threshold that was last used on its
    key, or nothing if that is zero; so one more is a word of 64 bits, and so is the count with the
    next event, whatever that event is and however it is tracked. -/
theorem counts_fit {steps : List Step} (hfit : ThresholdsFit steps) :
    (∀ key b, (empty.run steps).2.find? key = some b →
        (∃ a, lastTracked key steps = some a ∧ b.count < max 1 a.threshold) ∧
          b.count + 1 < UInt64.size) ∧
      ∀ ruleId document a now,
        ((empty.run steps).2.track ruleId document a now).1.count < UInt64.size :=
  ⟨fun _ _ h => ⟨count_lt_of_find?_run h, count_add_one_lt hfit h⟩, count_track_lt_size hfit⟩

/-- Logins counted with the largest threshold, then with 3, with 0 and with the largest again, one
    of them at an instant before those of the others: the bucket is left with the two last ones. -/
theorem counts_fit_of_changed_thresholds :
    let login (threshold : Nat) (seconds : Int) : Step :=
      .track "failed-login" (.object [("ip", .string "10.0.0.9")])
        ⟨"ip", threshold, Binary64.ofNat 60⟩ ⟨seconds, 0⟩
    let steps := [login 18446744073709551615 1750000000, login 18446744073709551615 1750000001,
      login 3 1749999000, login 0 1750000002, login 18446744073709551615 1750000003,
      .sweep ⟨1750000004, 0⟩ 60000000000, login 18446744073709551615 1750000005]
    let last : Rule.Aggregation := ⟨"ip", 18446744073709551615, Binary64.ofNat 60⟩
    empty.outcomes steps
        = [⟨false, 1⟩, ⟨false, 2⟩, ⟨true, 3⟩, ⟨true, 1⟩, ⟨false, 1⟩, ⟨false, 2⟩] ∧
      ThresholdsFit steps ∧
      (∃ b, (empty.run steps).2.find? loginKey = some b ∧ b.count = 2 ∧
        b.count < max 1 last.threshold ∧ b.count + 1 < UInt64.size) ∧
      lastTracked loginKey steps = some last := by
  intro login steps last
  have hfit : ThresholdsFit steps := by
    intro ruleId document a now hmem
    simp only [steps, login, List.mem_cons, Step.track.injEq, reduceCtorEq, List.not_mem_nil,
      or_false, false_or] at hmem
    obtain ⟨-, -, rfl, -⟩ | ⟨-, -, rfl, -⟩ | ⟨-, -, rfl, -⟩ | ⟨-, -, rfl, -⟩ | ⟨-, -, rfl, -⟩ |
      ⟨-, -, rfl, -⟩ := hmem
    all_goals decide
  have hlast : lastTracked loginKey steps = some last := by decide +kernel
  have hbucket : (empty.run steps).2.find? loginKey
      = some ⟨2, ⟨1750000002, 0⟩, ⟨1750000005, 0⟩⟩ := by
    decide +kernel
  obtain ⟨⟨a, ha, hlt⟩, hsize⟩ := (counts_fit hfit).1 loginKey _ hbucket
  obtain rfl : last = a := Option.some.inj (hlast.symm.trans ha)
  exact ⟨by decide +kernel, hfit, ⟨_, hbucket, rfl, hlt, hsize⟩, hlast⟩

end Watchpost.Tracker
