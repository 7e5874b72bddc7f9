import Watchpost.Proofs.Instant.Calendar
import Watchpost.Proofs.Tracker.AnyOrder

set_option autoImplicit false

/-! # What a sweep removes

Idle times and retentions are compared in whole milliseconds. A bucket is removed once its idle time
has more of them than the retention, `Tracker.IsPast`: never while it has been idle for no longer
than the retention, always after a millisecond more, and exactly when it has been idle for longer if
its idle time is a whole number of milliseconds. Neither an idle time before zero nor a retention
beyond a signed word of milliseconds makes a difference, `Tracker.isKept_iff`. -/

namespace Watchpost.Tracker

/-! ## Idle times -/

/-- An idle time has more whole milliseconds than a retention. -/
def IsPast (retention : Nat) (idle : Int) : Prop :=
  ((retention / millisecond : Nat) : Int) < idle / millisecond

instance (retention : Nat) (idle : Int) : Decidable (IsPast retention idle) :=
  inferInstanceAs (Decidable (_ < _))

theorem not_isPast_of_le {retention : Nat} {idle : Int} (h : idle ≤ retention) :
    ¬ IsPast retention idle := by
  unfold IsPast millisecond
  omega

theorem isPast_of_add_le {retention : Nat} {idle : Int} (h : retention + millisecond ≤ idle) :
    IsPast retention idle := by
  unfold millisecond at h
  unfold IsPast millisecond
  omega

/-- There is nothing to cut from an idle time of whole milliseconds. -/
theorem isPast_iff_of_dvd {retention : Nat} {idle : Int} (h : (millisecond : Int) ∣ idle) :
    IsPast retention idle ↔ retention < idle := by
  obtain ⟨count, rfl⟩ := h
  unfold IsPast millisecond
  omega

/-- A bucket outlives a sweep exactly if its idle time is not past the retention. -/
theorem isKept_iff {b : Bucket} {now : Instant} (hseen : b.lastSeen.HasDate) (hnow : now.HasDate)
    (retention : Nat) :
    b.isKept now retention = true ↔ ¬ IsPast retention (now.since b.lastSeen) := by
  have hshort := hnow.since_lt hseen
  unfold Bucket.isKept Bucket.idleMillis retentionMillis IsPast millisecond
  rw [decide_eq_true_eq]
  generalize now.since b.lastSeen = idle at hshort
  rcases Int.le_total 0 idle with hpos | hneg
  · -- The cut of a retention to a word lies beyond any idle time.
    rw [Int.tdiv_eq_ediv_of_nonneg hpos]
    omega
  · -- A clock that was set back: both ways of cutting give nothing past zero.
    have hcut : idle.tdiv (1000000 : Nat) ≤ (0 : Int).tdiv (1000000 : Nat) :=
      Int.tdiv_le_tdiv (by decide) hneg
    rw [Int.zero_tdiv] at hcut
    omega

/-! ## Sweeps -/

/-- A sweep removes exactly the buckets whose idle time satisfies a condition. -/
structure Removes (isPast : Int → Prop) (t : Tracker) (now : Instant) (retention : Nat) :
    Prop where
  /-- The buckets after the sweep are those before it that are not past, unchanged. -/
  kept : ∀ key b, (t.sweep now retention).2.find? key = some b ↔
    t.find? key = some b ∧ ¬ isPast (now.since b.lastSeen)
  /-- What the sweep returns is the number of buckets that are gone. -/
  counted : (t.sweep now retention).1 + (t.sweep now retention).2.size = t.size

theorem sweep_fst_add_size (t : Tracker) (now : Instant) (retention : Nat) :
    (t.sweep now retention).1 + (t.sweep now retention).2.size = t.size := by
  have hle := List.length_filter_le (fun entry : Key × Bucket => entry.2.isKept now retention)
    t.buckets
  exact Nat.sub_add_cancel hle

/-- The buckets of a run have been seen in the calendar, if all its calls are made there. -/
theorem hasDate_lastSeen {steps : List Step} (hsteps : ∀ s ∈ steps, s.time.HasDate) {key : Key}
    {b : Bucket} (h : (empty.run steps).2.find? key = some b) : b.lastSeen.HasDate := by
  obtain ⟨document, a, hstep⟩ := exists_track_of_find? h
  exact hsteps _ hstep

/-- **Sweeps go by whole milliseconds.** After any run, with instants in any order, a sweep removes
    exactly the buckets that are past the retention: none that has been idle for no longer than the
    retention, and each that has been idle for a millisecond more. -/
theorem removes_by_milliseconds {steps : List Step} {now : Instant}
    (hsteps : ∀ s ∈ steps, s.time.HasDate) (hnow : now.HasDate) (retention : Nat) :
    Removes (IsPast retention) (empty.run steps).2 now retention ∧
      ∀ idle : Int, (idle ≤ retention → ¬ IsPast retention idle) ∧
        (retention + millisecond ≤ idle → IsPast retention idle) ∧
        ((millisecond : Int) ∣ idle → (IsPast retention idle ↔ retention < idle)) := by
  refine ⟨⟨?_, sweep_fst_add_size _ now retention⟩,
    fun idle => ⟨not_isPast_of_le, isPast_of_add_le, isPast_iff_of_dvd⟩⟩
  intro key b
  rw [find?_sweep (hasUniqueKeys_empty.run steps), Option.filter_eq_some_iff]
  constructor
  · rintro ⟨hfound, hkept⟩
    exact ⟨hfound, (isKept_iff (hasDate_lastSeen hsteps hfound) hnow retention).1 hkept⟩
  · rintro ⟨hfound, hpast⟩
    exact ⟨hfound, (isKept_iff (hasDate_lastSeen hsteps hfound) hnow retention).2 hpast⟩

/-- Two logins a nanosecond apart: 600.001 seconds after the first one, a sweep with a retention of
    ten minutes removes its bucket and leaves that of the second. -/
theorem removes_by_milliseconds_between_logins :
    let login (ip : String) (now : Instant) : Step :=
      .track "failed-login" (.object [("ip", .string ip)]) ⟨"ip", 3, Binary64.ofNat 60⟩ now
    let steps := [login "10.0.0.9" ⟨1750000000, 0⟩, login "10.0.0.7" ⟨1750000000, 1⟩]
    let now : Instant := ⟨1750000600, 1000000⟩
    let swept := (empty.run steps).2.sweep now 600000000000
    (∀ s ∈ steps, s.time.HasDate) ∧ now.HasDate ∧ swept.1 = 1 ∧
      swept.2.find? ⟨"failed-login", "10.0.0.9"⟩ = none ∧
      swept.2.find? ⟨"failed-login", "10.0.0.7"⟩
        = some ⟨1, ⟨1750000000, 1⟩, ⟨1750000000, 1⟩⟩ := by
  intro login steps now swept
  have hsteps : ∀ s ∈ steps, s.time.HasDate := by decide +kernel
  have hnow : now.HasDate := by decide +kernel
  obtain ⟨⟨hkept, hcounted⟩, -⟩ := removes_by_milliseconds hsteps hnow 600000000000
  have hfirst : (empty.run steps).2.find? ⟨"failed-login", "10.0.0.9"⟩
      = some ⟨1, ⟨1750000000, 0⟩, ⟨1750000000, 0⟩⟩ := by decide +kernel
  refine ⟨hsteps, hnow, ?_, ?_, (hkept _ _).2 ⟨by decide +kernel, by decide +kernel⟩⟩
  · have hsize : (empty.run steps).2.size = 2 := by decide +kernel
    have hsize' : swept.2.size = 1 := by decide +kernel
    have hsum : swept.1 + swept.2.size = (empty.run steps).2.size := hcounted
    omega
  · rw [Option.eq_none_iff_forall_ne_some]
    intro b hb
    obtain ⟨hfound, hpast⟩ := (hkept _ b).1 hb
    obtain rfl := Option.some.inj (hfirst.symm.trans hfound)
    exact hpast (by decide +kernel)

/-- A sweep does not remove exactly the buckets that have been idle for longer than the retention:
    one nanosecond beyond ten minutes it leaves the bucket of a login. -/
theorem not_removes_beyond_retention :
    let steps := loginsAt ⟨"ip", 3, Binary64.ofNat 60⟩ [⟨1750000000, 0⟩]
    let retention : Nat := 600000000000
    ¬ Removes (fun idle => retention < idle) (empty.run steps).2 ⟨1750000600, 1⟩ retention := by
  intro steps retention h
  have hleft : ((empty.run steps).2.sweep ⟨1750000600, 1⟩ retention).2.find? loginKey
      = some ⟨1, ⟨1750000000, 0⟩, ⟨1750000000, 0⟩⟩ := by decide +kernel
  exact ((h.kept loginKey _).1 hleft).2 (by decide +kernel)

end Watchpost.Tracker
