import Watchpost.Proofs.Tracker.Run

set_option autoImplicit false

/-! # Sweeps do not show

A bucket that a sweep drops has been idle for longer than any window, so that the next event of its
key would have started a new window anyway. `Tracker.SamePlace` relates the place of a key in a run
with sweeps to the place of that key in the run without them: both hold the same bucket, or the run
without sweeps still holds one that has expired. `Tracker.Mirrors` says so of all places, and every
call keeps it. -/

namespace Watchpost.Tracker

/-- No sweep has a retention shorter than a window by which events are tracked. -/
def RetainingAll (steps : List Step) : Prop :=
  ∀ ruleId document a now, Step.track ruleId document a now ∈ steps → Retaining a steps

/-! ## Expired buckets -/

/-- The window of a bucket is over for every event that is still to come. -/
def Expired (steps : List Step) (b : Bucket) : Prop :=
  ∀ ruleId document a now, Step.track ruleId document a now ∈ steps →
    a.window < now.since b.windowStart

theorem Expired.tail {s : Step} {rest : List Step} {b : Bucket} (h : Expired (s :: rest) b) :
    Expired rest b :=
  fun ruleId document a now hmem => h ruleId document a now (List.mem_cons_of_mem s hmem)

/-- Rolling a fresh bucket leaves it fresh, whatever the window. -/
theorem roll_fresh (a : Rule.Aggregation) (now : Instant) :
    (Bucket.fresh now).roll a now = .fresh now := by
  rcases roll_cases a now (.fresh now) with ⟨-, hroll⟩ | ⟨-, hroll⟩ <;> exact hroll

/-- An event counts the same in a bucket whose window is over and where there is no bucket. -/
theorem trackPlace_of_expired {a : Rule.Aggregation} {now : Instant} {b : Bucket}
    (h : a.window < now.since b.windowStart) :
    trackPlace (some b) a now = trackPlace none a now := by
  have hroll : b.roll a now = ⟨0, now, b.lastSeen⟩ := by
    rcases roll_cases a now b with ⟨hin, -⟩ | ⟨-, hroll⟩
    · omega
    · exact hroll
  simp only [trackPlace, Option.getD_some, Option.getD_none, Bucket.track, hroll, roll_fresh]
  rfl

/-! ## Places with and without sweeps -/

/-- The times in a bucket are outside leap seconds, in order, and not later than any call. -/
structure Dated (steps : List Step) (b : Bucket) : Prop where
  start_regular : b.windowStart.IsRegular
  seen_regular : b.lastSeen.IsRegular
  start_le_seen : b.windowStart ≤ b.lastSeen
  seen_le : ∀ s ∈ steps, b.lastSeen ≤ s.time

theorem Dated.tail {s : Step} {rest : List Step} {b : Bucket} (h : Dated (s :: rest) b) :
    Dated rest b where
  start_regular := h.start_regular
  seen_regular := h.seen_regular
  start_le_seen := h.start_le_seen
  seen_le s' hs' := h.seen_le s' (List.mem_cons_of_mem s hs')

/-- The bucket of an event that no call is earlier than. -/
theorem dated_trackPlace {steps : List Step} {slot : Option Bucket} {a : Rule.Aggregation}
    {now : Instant} (hnow : now.IsRegular) (hle : ∀ s ∈ steps, now ≤ s.time)
    (hslot : ∀ b, slot = some b → b.windowStart.IsRegular ∧ b.windowStart ≤ now) :
    Dated steps (trackPlace slot a now).2 := by
  have hstart : (trackPlace slot a now).2.windowStart.IsRegular ∧
      (trackPlace slot a now).2.windowStart ≤ now := by
    rcases windowStart_track a now (slot.getD (.fresh now)) with he | he
    · rw [trackPlace, he]
      cases slot with
      | none => exact ⟨hnow, Instant.le_refl now⟩
      | some b => exact hslot b rfl
    · rw [trackPlace, he]
      exact ⟨hnow, Instant.le_refl now⟩
  have hseen : (trackPlace slot a now).2.lastSeen = now := lastSeen_track a now _
  refine ⟨hstart.1, ?_, ?_, ?_⟩
  · rw [hseen]
    exact hnow
  · rw [hseen]
    exact hstart.2
  · rw [hseen]
    exact hle

/-- What the place of a key holds in a run with sweeps and in the run without them. -/
def SamePlace (steps : List Step) (swept whole : Option Bucket) : Prop :=
  whole = swept ∨ swept = none ∧ ∃ b, whole = some b ∧ Expired steps b

theorem SamePlace.tail {s : Step} {rest : List Step} {swept whole : Option Bucket}
    (h : SamePlace (s :: rest) swept whole) : SamePlace rest swept whole :=
  h.imp_right fun ⟨hnone, b, hb, hexpired⟩ => ⟨hnone, b, hb, hexpired.tail⟩

theorem SamePlace.trackPlace_eq {ruleId : String} {document : Json} {a : Rule.Aggregation}
    {now : Instant} {rest : List Step} {swept whole : Option Bucket}
    (h : SamePlace (.track ruleId document a now :: rest) swept whole) :
    trackPlace whole a now = trackPlace swept a now := by
  rcases h with rfl | ⟨rfl, b, rfl, hexpired⟩
  · rfl
  · exact trackPlace_of_expired (hexpired ruleId document a now List.mem_cons_self)

/-- A sweep that drops a bucket drops one that has expired. -/
theorem SamePlace.sweep {now : Instant} {retention : Nat} {rest : List Step}
    {swept whole : Option Bucket} (h : SamePlace (.sweep now retention :: rest) swept whole)
    (hdated : ∀ b, swept = some b → Dated (.sweep now retention :: rest) b)
    (hretain : RetainingAll (.sweep now retention :: rest))
    (hchron : Chronological (.sweep now retention :: rest))
    (hregular : Regular (.sweep now retention :: rest)) :
    SamePlace rest (swept.filter (·.isKept now retention)) whole := by
  rcases h with rfl | ⟨rfl, b, rfl, hexpired⟩
  · cases whole with
    | none => exact Or.inl rfl
    | some b =>
      cases hkept : b.isKept now retention with
      | true => exact Or.inl (Option.filter_some_pos hkept).symm
      | false =>
        refine Or.inr ⟨Option.filter_some_neg hkept, b, rfl, ?_⟩
        intro ruleId document a now' hmem
        have hmem' := List.mem_cons_of_mem (Step.sweep now retention) hmem
        have hd := hdated b rfl
        have hnow : now.IsRegular := hregular _ List.mem_cons_self
        have hlater : now ≤ now' := (List.pairwise_cons.1 hchron).1 _ hmem
        have hidle : a.window < now.since b.lastSeen := by
          rw [← Int.not_le]
          intro hle
          have hkept' := isKept_of_since_le hle
            (hretain ruleId document a now' hmem' now retention List.mem_cons_self)
          rw [hkept] at hkept'
          exact absurd hkept' (by simp)
        -- The window began no later than the last event, and the event to come is no earlier.
        calc a.window
            < now.since b.lastSeen := hidle
          _ ≤ now.since b.windowStart :=
            Instant.since_le_since_left hd.start_regular hd.seen_regular hnow hd.start_le_seen
          _ ≤ now'.since b.windowStart :=
            Instant.since_le_since_right hd.start_regular hnow (hregular _ hmem') hlater
  · exact Or.inr ⟨rfl, b, rfl, hexpired.tail⟩

/-! ## Trackers with and without sweeps -/

/-- What ties the tracker `t` of a run with sweeps to the tracker `u` of the run without them. -/
structure Mirrors (steps : List Step) (t u : Tracker) : Prop where
  unique : t.HasUniqueKeys
  dated : ∀ key b, t.find? key = some b → Dated steps b
  same : ∀ key, SamePlace steps (t.find? key) (u.find? key)

theorem mirrors_empty (steps : List Step) : Mirrors steps empty empty where
  unique := hasUniqueKeys_empty
  dated := by simp
  same _ := Or.inl rfl

theorem Mirrors.tail {s : Step} {rest : List Step} {t u : Tracker} (h : Mirrors (s :: rest) t u) :
    Mirrors rest t u where
  unique := h.unique
  dated key b hb := (h.dated key b hb).tail
  same key := (h.same key).tail

/-- An event has one outcome in both runs, and the trackers stay alike. -/
theorem Mirrors.track {ruleId : String} {document : Json} {a : Rule.Aggregation} {now : Instant}
    {rest : List Step} {t u : Tracker} (h : Mirrors (.track ruleId document a now :: rest) t u)
    (hnow : now.IsRegular) (hlater : ∀ s ∈ rest, now ≤ s.time) :
    (t.track ruleId document a now).1 = (u.track ruleId document a now).1 ∧
      Mirrors rest (t.track ruleId document a now).2 (u.track ruleId document a now).2 := by
  cases hkey : (Step.track ruleId document a now).key? with
  | none =>
    rw [track_of_key_none hkey, track_of_key_none hkey]
    exact ⟨rfl, h.tail⟩
  | some key =>
    have hplace := (h.same key).trackPlace_eq
    rw [track_of_key hkey, track_of_key hkey, trackKey_fst, trackKey_fst, hplace]
    refine ⟨rfl, h.unique.trackKey key a now, ?_, ?_⟩
    · intro k b hb
      rw [find?_trackKey] at hb
      split at hb
      · obtain rfl := Option.some.inj hb
        refine dated_trackPlace hnow hlater ?_
        intro old hold
        have hd := h.dated key old hold
        exact ⟨hd.start_regular,
          Instant.le_trans hd.start_le_seen (hd.seen_le _ List.mem_cons_self)⟩
      · exact (h.dated k b hb).tail
    · intro k
      rw [find?_trackKey, find?_trackKey, hplace]
      split
      · exact Or.inl rfl
      · exact (h.same k).tail

/-- A sweep in one of the runs leaves the trackers alike. -/
theorem Mirrors.sweep {now : Instant} {retention : Nat} {rest : List Step} {t u : Tracker}
    (h : Mirrors (.sweep now retention :: rest) t u)
    (hretain : RetainingAll (.sweep now retention :: rest))
    (hchron : Chronological (.sweep now retention :: rest))
    (hregular : Regular (.sweep now retention :: rest)) :
    Mirrors rest (t.sweep now retention).2 u where
  unique := h.unique.sweep now retention
  dated := by
    intro key b hb
    rw [find?_sweep h.unique] at hb
    exact (h.dated key b (Option.filter_eq_some_iff.1 hb).1).tail
  same := by
    intro key
    rw [find?_sweep h.unique]
    exact (h.same key).sweep (h.dated key) hretain hchron hregular

/-! ## Whole runs -/

theorem RetainingAll.tail {s : Step} {rest : List Step} (h : RetainingAll (s :: rest)) :
    RetainingAll rest := by
  intro ruleId document a now hmem now' retention hmem'
  exact h ruleId document a now (List.mem_cons_of_mem s hmem) now' retention
    (List.mem_cons_of_mem s hmem')

theorem Mirrors.outcomes_eq {steps : List Step} {t u : Tracker} (h : Mirrors steps t u)
    (hretain : RetainingAll steps) (hchron : Chronological steps) (hregular : Regular steps) :
    t.outcomes steps = u.outcomes (steps.filter Step.isTrack) := by
  induction steps generalizing t u with
  | nil => rfl
  | cons s rest ih =>
    obtain ⟨hlater, hchron'⟩ := List.pairwise_cons.1 hchron
    obtain ⟨hnow, hregular'⟩ := List.forall_mem_cons.1 hregular
    cases s with
    | track ruleId document a now =>
      obtain ⟨houtcome, hmirrors⟩ := h.track hnow hlater
      rw [List.filter_cons_of_pos rfl, outcomes_cons, outcomes_cons]
      simp only [apply]
      rw [houtcome, ih hmirrors hretain.tail hchron' hregular']
    | sweep now retention =>
      rw [List.filter_cons_of_neg (by simp [Step.isTrack]), outcomes_cons]
      exact ih (h.sweep hretain hchron hregular) hretain.tail hchron' hregular'

/-- **Sweeps do not show.** Where no retention is shorter than a window, every event has the outcome
    that it has in the run without sweeps. -/
theorem outcomes_without_sweeps {steps : List Step} (hretain : RetainingAll steps)
    (hchron : Chronological steps) (hregular : Regular steps) :
    empty.outcomes steps = empty.outcomes (steps.filter Step.isTrack) :=
  (mirrors_empty steps).outcomes_eq hretain hchron hregular

/-- Logins with a sweep between them. -/
def loginsAroundSweep (a : Rule.Aggregation) (before : List Instant) (now : Instant)
    (retention : Nat) (later : List Instant) : List Step :=
  loginsAt a before ++ .sweep now retention :: loginsAt a later

theorem retainingAll_loginsAroundSweep {a : Rule.Aggregation} {before later : List Instant}
    {now : Instant} {retention : Nat} (h : a.window ≤ retention) :
    RetainingAll (loginsAroundSweep a before now retention later) := by
  intro ruleId document a' now' hmem at' retention' hmem'
  have ha : a' = a := by
    rcases List.mem_append.1 hmem with hmem | hmem
    · exact uniform_loginsAt a before ruleId document a' now' hmem
    · rcases List.mem_cons.1 hmem with he | hmem
      · simp at he
      · exact uniform_loginsAt a later ruleId document a' now' hmem
  have hretention : retention' = retention := by
    simp only [loginsAroundSweep, loginsAt, List.mem_append, List.mem_cons, List.mem_map,
      reduceCtorEq, and_false, exists_false, false_or, or_false, Step.sweep.injEq] at hmem'
    exact hmem'.2
  rw [ha, hretention]
  exact h

/-- The sweep drops the bucket of a login, and the login after it would have rolled it over. -/
theorem outcomes_without_sweeps_of_logins :
    let a : Rule.Aggregation := ⟨"ip", 3, Binary64.ofNat 60⟩
    let steps := loginsAroundSweep a [⟨1750000000, 0⟩, ⟨1750000050, 0⟩] ⟨1750000660, 0⟩ 600000000000
      [⟨1750000661, 0⟩]
    (empty.run (steps.take 3)).2.buckets = [] ∧
      empty.outcomes steps = [⟨false, 1⟩, ⟨false, 2⟩, ⟨false, 1⟩] ∧
      empty.outcomes steps = empty.outcomes (steps.filter Step.isTrack) := by
  refine ⟨by decide +kernel, by decide +kernel, outcomes_without_sweeps ?_ (by decide) (by decide)⟩
  exact retainingAll_loginsAroundSweep (by decide +kernel)

/-- A leap second lets a sweep show. At the sweep after the leap second of the year 2016 the bucket
    has been idle for 1.3 seconds, but its window, which began earlier, is 0.9 seconds old. -/
theorem sweep_shows_around_leap_second :
    let a : Rule.Aggregation := ⟨"ip", 3, Binary64.ofNat 1⟩
    let steps := loginsAroundSweep a [⟨1483228799, 1500000000⟩, ⟨1483228800, 100000000⟩]
      ⟨1483228801, 400000000⟩ 1000000000 [⟨1483228801, 400000000⟩]
    RetainingAll steps ∧ Chronological steps ∧
      empty.outcomes steps ≠ empty.outcomes (steps.filter Step.isTrack) := by
  refine ⟨retainingAll_loginsAroundSweep ?_, by decide, ?_⟩
  · decide +kernel
  · decide +kernel

end Watchpost.Tracker
