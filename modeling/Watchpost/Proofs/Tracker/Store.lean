import Watchpost.Proofs.Lookup
import Watchpost.Tracker

set_option autoImplicit false

/-! # The buckets of a tracker

A tracker is seen through `Tracker.find?`. Tracking changes the bucket under one key, sweeping drops
some buckets, and neither touches another key. That a sweep acts on each key alone rests on
`Tracker.HasUniqueKeys`, which every step keeps. -/

namespace Watchpost

/-- A window is a whole number of microseconds that fits a word. -/
theorem Rule.Aggregation.window_le (a : Rule.Aggregation) :
    a.window ≤ 9223372036854775807 * 1000 := by
  have hmicros : a.windowMicros ≤ 9223372036854775807 := by
    unfold windowMicros Binary64.roundToWord Binary64.clampToWord
    split <;> omega
  unfold window
  omega

namespace Tracker

/-- No key has two buckets. -/
def HasUniqueKeys (t : Tracker) : Prop :=
  (t.buckets.map Prod.fst).Nodup

theorem hasUniqueKeys_empty : empty.HasUniqueKeys :=
  List.nodup_nil

@[simp] theorem find?_empty (key : Key) : empty.find? key = none :=
  rfl

/-! ## Putting a bucket in place -/

theorem lookup_place (key : Key) (b : Bucket) (bs : List (Key × Bucket)) (k : Key) :
    (place key b bs).lookup k = if k = key then some b else bs.lookup k := by
  induction bs with
  | nil => simp [place, lookup_cons_eq_ite]
  | cons entry rest ih =>
    obtain ⟨k', old⟩ := entry
    simp only [place]
    split
    · next he =>
      subst he
      rw [lookup_cons_eq_ite, lookup_cons_eq_ite]
      split <;> rfl
    · next hne =>
      rw [lookup_cons_eq_ite, lookup_cons_eq_ite, ih]
      by_cases h : k = k'
      · have hkey : k ≠ key := fun he => hne (h.symm.trans he)
        rw [if_pos h, if_pos h, if_neg hkey]
      · rw [if_neg h, if_neg h]

theorem mem_keys_place {key k : Key} {b : Bucket} {bs : List (Key × Bucket)}
    (h : k ∈ (place key b bs).map Prod.fst) : k = key ∨ k ∈ bs.map Prod.fst := by
  induction bs with
  | nil => simpa [place] using h
  | cons entry rest ih =>
    obtain ⟨k', old⟩ := entry
    simp only [place] at h
    split at h
    · simp only [List.map_cons, List.mem_cons] at h ⊢
      exact h.imp_right Or.inr
    · simp only [List.map_cons, List.mem_cons] at h ⊢
      rcases h with h | h
      · exact Or.inr (Or.inl h)
      · exact (ih h).imp_right Or.inr

theorem nodup_keys_place (key : Key) (b : Bucket) {bs : List (Key × Bucket)}
    (h : (bs.map Prod.fst).Nodup) : ((place key b bs).map Prod.fst).Nodup := by
  induction bs with
  | nil => simp [place]
  | cons entry rest ih =>
    obtain ⟨k', old⟩ := entry
    simp only [List.map_cons, List.nodup_cons] at h
    simp only [place]
    split
    · next he =>
      subst he
      simpa using h
    · next hne =>
      simp only [List.map_cons, List.nodup_cons]
      refine ⟨fun hmem => ?_, ih h.2⟩
      rcases mem_keys_place hmem with he | hrest
      · exact hne he
      · exact h.1 hrest

theorem find?_insert (t : Tracker) (key : Key) (b : Bucket) (k : Key) :
    (t.insert key b).find? k = if k = key then some b else t.find? k :=
  lookup_place key b t.buckets k

/-! ## One bucket -/

/-- An event falls into the window of a bucket, or starts a window of its own. -/
theorem roll_cases (a : Rule.Aggregation) (now : Instant) (b : Bucket) :
    (now.since b.windowStart ≤ a.window ∧ b.roll a now = b) ∨
      (a.window < now.since b.windowStart ∧ b.roll a now = ⟨0, now, b.lastSeen⟩) := by
  by_cases h : now.since b.windowStart ≤ a.window
  · refine Or.inl ⟨h, ?_⟩
    have hnot : ¬ now.since b.windowStart > a.window := Int.not_lt.2 h
    simp only [Bucket.roll, if_neg hnot]
  · have hover : now.since b.windowStart > a.window := Int.not_le.1 h
    refine Or.inr ⟨hover, ?_⟩
    simp only [Bucket.roll, if_pos hover]

/-- An event leaves the count below the threshold, or triggers and starts the count anew. -/
theorem track_cases (a : Rule.Aggregation) (now : Instant) (b : Bucket) :
    ((b.roll a now).count + 1 < a.threshold ∧
      b.track a now = (⟨false, (b.roll a now).count + 1⟩,
        ⟨(b.roll a now).count + 1, (b.roll a now).windowStart, now⟩)) ∨
      (a.threshold ≤ (b.roll a now).count + 1 ∧
        b.track a now = (⟨true, (b.roll a now).count + 1⟩, ⟨0, now, now⟩)) := by
  by_cases h : a.threshold ≤ (b.roll a now).count + 1
  · refine Or.inr ⟨h, ?_⟩
    simp only [Bucket.track, if_pos h]
  · refine Or.inl ⟨Nat.not_le.1 h, ?_⟩
    simp only [Bucket.track, if_neg h]

/-- The window of a bucket goes on, or starts with the event. -/
theorem windowStart_roll (a : Rule.Aggregation) (now : Instant) (b : Bucket) :
    (b.roll a now).windowStart = b.windowStart ∨ (b.roll a now).windowStart = now := by
  rcases roll_cases a now b with ⟨-, hroll⟩ | ⟨-, hroll⟩
  · exact Or.inl (by rw [hroll])
  · exact Or.inr (by rw [hroll])

theorem windowStart_track (a : Rule.Aggregation) (now : Instant) (b : Bucket) :
    (b.track a now).2.windowStart = b.windowStart ∨ (b.track a now).2.windowStart = now := by
  rcases track_cases a now b with ⟨-, htrack⟩ | ⟨-, htrack⟩
  · rw [htrack]
    exact windowStart_roll a now b
  · exact Or.inr (by rw [htrack])

@[simp] theorem lastSeen_track (a : Rule.Aggregation) (now : Instant) (b : Bucket) :
    (b.track a now).2.lastSeen = now := by
  rcases track_cases a now b with ⟨-, htrack⟩ | ⟨-, htrack⟩ <;> rw [htrack]

/-! ## Tracking -/

/-- What a tracked event does to the place of its key, which may hold no bucket yet. -/
def trackPlace (slot : Option Bucket) (a : Rule.Aggregation) (now : Instant) : Outcome × Bucket :=
  (slot.getD (.fresh now)).track a now

theorem trackKey_fst (t : Tracker) (key : Key) (a : Rule.Aggregation) (now : Instant) :
    (t.trackKey key a now).1 = (trackPlace (t.find? key) a now).1 :=
  rfl

theorem find?_trackKey (t : Tracker) (key : Key) (a : Rule.Aggregation) (now : Instant) (k : Key) :
    (t.trackKey key a now).2.find? k
      = if k = key then some (trackPlace (t.find? key) a now).2 else t.find? k :=
  find?_insert t key _ k

theorem HasUniqueKeys.trackKey {t : Tracker} (h : t.HasUniqueKeys) (key : Key)
    (a : Rule.Aggregation) (now : Instant) : (t.trackKey key a now).2.HasUniqueKeys :=
  nodup_keys_place key _ h

theorem HasUniqueKeys.track {t : Tracker} (h : t.HasUniqueKeys) (ruleId : String) (document : Json)
    (a : Rule.Aggregation) (now : Instant) : (t.track ruleId document a now).2.HasUniqueKeys := by
  unfold Tracker.track
  split
  · exact h
  · exact h.trackKey _ a now

/-- The buckets of all keys but one. -/
def others (t : Tracker) (key : Key) : List (Key × Bucket) :=
  t.buckets.filter fun entry => entry.1 ≠ key

theorem filter_place (key : Key) (b : Bucket) (bs : List (Key × Bucket)) :
    ((place key b bs).filter fun entry => entry.1 ≠ key)
      = bs.filter fun entry => entry.1 ≠ key := by
  induction bs with
  | nil => simp [place]
  | cons entry rest ih =>
    obtain ⟨k, old⟩ := entry
    rw [place]
    split
    · next he =>
      subst he
      rw [List.filter_cons_of_neg (by simp), List.filter_cons_of_neg (by simp)]
    · next hne =>
      rw [List.filter_cons_of_pos (by simpa using hne),
        List.filter_cons_of_pos (by simpa using hne), ih]

/-- Tracking leaves the buckets of all other keys as they are. -/
theorem others_trackKey (t : Tracker) (key : Key) (a : Rule.Aggregation) (now : Instant) :
    (t.trackKey key a now).2.others key = t.others key :=
  filter_place key _ t.buckets

/-! ## Sweeping -/

theorem find?_sweep {t : Tracker} (h : t.HasUniqueKeys) (now : Instant) (retention : Nat)
    (k : Key) : (t.sweep now retention).2.find? k = (t.find? k).filter (·.isKept now retention) :=
  lookup_filter_value (Bucket.isKept now retention) h k

theorem HasUniqueKeys.sweep {t : Tracker} (h : t.HasUniqueKeys) (now : Instant) (retention : Nat) :
    (t.sweep now retention).2.HasUniqueKeys :=
  List.Nodup.sublist (List.filter_sublist.map Prod.fst) h

/-- A sweep that every bucket outlives removes none and changes none. -/
theorem sweep_eq_self {t : Tracker} (h : t.HasUniqueKeys) {now : Instant} {retention : Nat}
    (hkept : ∀ key b, t.find? key = some b → b.isKept now retention = true) :
    t.sweep now retention = (0, t) := by
  have hall : (t.buckets.filter fun p => p.2.isKept now retention) = t.buckets := by
    rw [List.filter_eq_self]
    intro p hp
    exact hkept p.1 p.2 (lookup_of_mem h hp)
  rw [Tracker.sweep, hall, Nat.sub_self]

/-! ## Windows and retention -/

/-- A bucket that has been idle for no more than some time outlives a sweep with at least that
    retention, although idle time and retention are cut to milliseconds: the time only has to be
    within the largest window. -/
theorem isKept_of_idle_le {b : Bucket} {now : Instant} {retention : Nat} {time : Int}
    (hidle : now.since b.lastSeen ≤ time) (hword : time ≤ 9223372036854775807 * 1000)
    (hretention : time ≤ retention) : b.isKept now retention = true := by
  unfold Bucket.isKept Bucket.idleMillis retentionMillis millisecond
  simp only [decide_eq_true_eq]
  generalize now.since b.lastSeen = idle at hidle
  rcases Int.le_total 0 idle with hpos | hneg
  · rw [Int.tdiv_eq_ediv_of_nonneg hpos]
    omega
  · have hcut : idle.tdiv (1000000 : Nat) ≤ (0 : Int).tdiv (1000000 : Nat) :=
      Int.tdiv_le_tdiv (by decide) hneg
    rw [Int.zero_tdiv] at hcut
    omega

/-- A bucket that has been idle for no more than a window outlives a sweep with at least that
    retention. -/
theorem isKept_of_since_le {a : Rule.Aggregation} {b : Bucket} {now : Instant} {retention : Nat}
    (hidle : now.since b.lastSeen ≤ a.window) (hretention : a.window ≤ retention) :
    b.isKept now retention = true :=
  isKept_of_idle_le hidle a.window_le hretention

end Tracker

end Watchpost
