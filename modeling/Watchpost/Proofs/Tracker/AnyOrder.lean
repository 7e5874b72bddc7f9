import Watchpost.Proofs.Tracker.Run

set_option autoImplicit false

/-! # Events in any order

Where all calls of a run are made within a time that is no longer than any window and any retention,
their order does not matter, and neither does it that some come with an earlier instant than calls
before them: no window ends and no sweep removes a bucket. Then no event is lost and none counts
twice. The invariant is `Tracker.Balanced`: each tracked call of a key is one of those that a
trigger has taken, as many as the threshold says, or it is in the count of the bucket. -/

namespace Watchpost.Tracker

/-! ## Runs within a short time -/

/-- All calls are made within a time, in nanoseconds, that no window and no retention is shorter
    than. Nothing is said about their order: the distance is bounded whichever of two calls is the
    later one. -/
structure Brief (spread : Int) (steps : List Step) : Prop where
  close : ∀ s ∈ steps, ∀ s' ∈ steps, s.time.since s'.time ≤ spread
  window : ∀ ruleId document a now, Step.track ruleId document a now ∈ steps → spread ≤ a.window
  retention : ∀ now (retention : Nat), Step.sweep now retention ∈ steps → spread ≤ retention

theorem Brief.perm {spread : Int} {steps steps' : List Step} (h : Brief spread steps)
    (hperm : steps'.Perm steps) : Brief spread steps' where
  close s hs s' hs' := h.close s (hperm.mem_iff.1 hs) s' (hperm.mem_iff.1 hs')
  window ruleId document a now hmem := h.window ruleId document a now (hperm.mem_iff.1 hmem)
  retention now retention hmem := h.retention now retention (hperm.mem_iff.1 hmem)

theorem Uniform.perm {ruleId : String} {a : Rule.Aggregation} {steps steps' : List Step}
    (h : Uniform ruleId a steps) (hperm : steps'.Perm steps) : Uniform ruleId a steps' :=
  fun document a' now hmem => h document a' now (hperm.mem_iff.1 hmem)

/-- Touches of a place by one aggregation, within such a time. -/
structure BriefTouches (spread : Int) (a : Rule.Aggregation) (xs : List Touch) : Prop where
  close : ∀ x ∈ xs, ∀ y ∈ xs, x.time.since y.time ≤ spread
  tracked : ∀ a' now, .track a' now ∈ xs → a' = a ∧ spread ≤ a.window
  retention : ∀ now (retention : Nat), .sweep now retention ∈ xs → spread ≤ retention

theorem Brief.touches {spread : Int} {steps : List Step} (h : Brief spread steps) {key : Key}
    {a : Rule.Aggregation} (huniform : Uniform key.ruleId a steps) :
    BriefTouches spread a (touches key steps) where
  close := by
    intro x hx y hy
    obtain ⟨s, hs, hsx⟩ := exists_step_of_mem_touches hx
    obtain ⟨s', hs', hsy⟩ := exists_step_of_mem_touches hy
    rw [← hsx, ← hsy]
    exact h.close s hs s' hs'
  tracked := by
    intro a' now hmem
    obtain ⟨document, hstep⟩ := mem_touches_track hmem
    obtain rfl := huniform document a' now hstep
    exact ⟨rfl, h.window _ document a' now hstep⟩
  retention now retention hmem := h.retention now retention (mem_touches_sweep hmem)

theorem BriefTouches.tail {spread : Int} {a : Rule.Aggregation} {x : Touch} {xs : List Touch}
    (h : BriefTouches spread a (x :: xs)) : BriefTouches spread a xs where
  close y hy z hz := h.close y (List.mem_cons_of_mem x hy) z (List.mem_cons_of_mem x hz)
  tracked a' now hmem := h.tracked a' now (List.mem_cons_of_mem x hmem)
  retention now retention hmem := h.retention now retention (List.mem_cons_of_mem x hmem)

/-! ## The times in a bucket -/

theorem trackPlace_times {P : Instant → Prop} {slot : Option Bucket} {a : Rule.Aggregation}
    {now : Instant} (hnow : P now) (hslot : ∀ b, slot = some b → P b.windowStart ∧ P b.lastSeen) :
    P (trackPlace slot a now).2.windowStart ∧ P (trackPlace slot a now).2.lastSeen := by
  refine ⟨?_, ?_⟩
  · rcases windowStart_track a now (slot.getD (.fresh now)) with he | he
    · rw [trackPlace, he]
      cases slot with
      | none => exact hnow
      | some b => exact (hslot b rfl).1
    · rw [trackPlace, he]
      exact hnow
  · rw [trackPlace, lastSeen_track]
    exact hnow

/-- The times in the bucket of a place are those of events that were tracked there. -/
theorem placeAfter_times {P : Instant → Prop} {xs : List Touch}
    (hxs : ∀ a now, .track a now ∈ xs → P now) {slot : Option Bucket}
    (hslot : ∀ b, slot = some b → P b.windowStart ∧ P b.lastSeen) :
    ∀ b, placeAfter slot xs = some b → P b.windowStart ∧ P b.lastSeen := by
  induction xs generalizing slot with
  | nil => exact hslot
  | cons x rest ih =>
    have hrest : ∀ a now, .track a now ∈ rest → P now :=
      fun a now hmem => hxs a now (List.mem_cons_of_mem x hmem)
    cases x with
    | track a now =>
      apply ih hrest
      intro b hb
      obtain rfl := Option.some.inj hb
      exact trackPlace_times (hxs a now List.mem_cons_self) hslot
    | sweep now retention =>
      exact ih hrest fun b hb => hslot b (Option.filter_eq_some_iff.1 hb).1

/-- A bucket that a run leaves was last seen at an event of the run. -/
theorem exists_track_of_find? {steps : List Step} {key : Key} {b : Bucket}
    (h : (empty.run steps).2.find? key = some b) :
    ∃ document a, Step.track key.ruleId document a b.lastSeen ∈ steps := by
  rw [find?_run hasUniqueKeys_empty, find?_empty] at h
  have htracked : ∀ a now, .track a now ∈ touches key steps →
      ∃ a, Touch.track a now ∈ touches key steps := fun a now hmem => ⟨a, hmem⟩
  obtain ⟨-, a, hseen⟩ := placeAfter_times htracked (by simp) b h
  obtain ⟨document, hstep⟩ := mem_touches_track hseen
  exact ⟨document, a, hstep⟩

/-- No sweep of a short run removes a bucket. -/
theorem sweep_of_brief {spread : Int} {before later : List Step} {now : Instant} {retention : Nat}
    (h : Brief spread (before ++ .sweep now retention :: later)) :
    (empty.run before).2.sweep now retention = (0, (empty.run before).2) := by
  have hsweep : Step.sweep now retention ∈ before ++ .sweep now retention :: later :=
    List.mem_append_right before List.mem_cons_self
  apply sweep_eq_self (hasUniqueKeys_empty.run before)
  intro key b hb
  obtain ⟨document, a, hstep⟩ := exists_track_of_find? hb
  have hmem := List.mem_append_left (.sweep now retention :: later) hstep
  have hidle := h.close _ hsweep _ hmem
  simp only [Step.time] at hidle
  have hwindow : spread ≤ a.window := h.window key.ruleId document a b.lastSeen hmem
  have hretention : spread ≤ retention := h.retention now retention hsweep
  exact isKept_of_idle_le hidle (Int.le_trans hwindow a.window_le) hretention

/-! ## One event -/

/-- The events that a place counts and no trigger has taken. -/
def pending (slot : Option Bucket) : Nat :=
  (slot.map (·.count)).getD 0

/-- Each tracked call of a key has been taken by a trigger or is in the count of the bucket. -/
structure Balanced (a : Rule.Aggregation) (past : List Call) (slot : Option Bucket) : Prop where
  balance : past.countP (·.outcome.triggered) * a.threshold + pending slot = past.length
  pending_lt : pending slot < a.threshold
  counts : ∀ c ∈ past, c.outcome.triggered = true → c.outcome.count = a.threshold
  held : slot = none ↔ past = []

/-- An event that no window separates from the bucket adds one to what the place counts. -/
theorem count_roll_of_since_le {slot : Option Bucket} {a : Rule.Aggregation} {now : Instant}
    (hin : ∀ b, slot = some b → now.since b.windowStart ≤ a.window) :
    ((slot.getD (.fresh now)).roll a now).count = pending slot := by
  rcases roll_cases a now (slot.getD (.fresh now)) with ⟨-, hroll⟩ | ⟨hover, hroll⟩
  · rw [hroll]
    cases slot <;> rfl
  · rw [hroll]
    cases slot with
    | none => rfl
    | some b =>
      have := hin b rfl
      simp only [Option.getD_some] at hover
      omega

theorem Balanced.track {a : Rule.Aggregation} {past : List Call} {slot : Option Bucket}
    (h : Balanced a past slot) {now : Instant}
    (hin : ∀ b, slot = some b → now.since b.windowStart ≤ a.window) :
    Balanced a (past ++ [⟨now, (trackPlace slot a now).1⟩]) (some (trackPlace slot a now).2) := by
  obtain ⟨hbalance, hlt, hcounts, -⟩ := h
  have hcount := count_roll_of_since_le hin
  rcases track_cases a now (slot.getD (.fresh now)) with ⟨hbelow, htrack⟩ | ⟨hreached, htrack⟩
  · -- The event is counted.
    rw [hcount] at hbelow
    rw [trackPlace, htrack, hcount]
    refine ⟨?_, hbelow, ?_, by simp⟩
    · simp only [List.countP_append, List.countP_singleton, List.length_append,
        List.length_singleton, pending, Option.map_some, Option.getD_some, Bool.false_eq_true,
        if_false, Nat.add_zero]
      unfold pending at hbalance
      omega
    · intro c hc htriggered
      rcases List.mem_append.1 hc with hc | hc
      · exact hcounts c hc htriggered
      · simp [List.mem_singleton.1 hc] at htriggered
  · -- The event triggers and takes all those that were counted.
    rw [hcount] at hreached
    have hfull : pending slot + 1 = a.threshold := by omega
    rw [trackPlace, htrack, hcount, hfull]
    refine ⟨?_, by simp only [pending, Option.map_some, Option.getD_some]; omega, ?_, by simp⟩
    · simp only [List.countP_append, List.countP_singleton, List.length_append,
        List.length_singleton, if_true, Nat.add_mul, Nat.one_mul, pending, Option.map_some,
        Option.getD_some, Nat.add_zero]
      omega
    · intro c hc htriggered
      rcases List.mem_append.1 hc with hc | hc
      · exact hcounts c hc htriggered
      · rw [List.mem_singleton.1 hc]

/-! ## Whole runs -/

/-- The times in the bucket of a place are not too far away from touches that are still to come. -/
def Near (spread : Int) (xs : List Touch) (t : Instant) : Prop :=
  ∀ x ∈ xs, x.time.since t ≤ spread

/-- A place within a short run: no window ends, and no sweep empties it. -/
theorem balanced_placeAfter {spread : Int} {a : Rule.Aggregation} {xs : List Touch}
    (hxs : BriefTouches spread a xs) {slot : Option Bucket} {past : List Call}
    (h : Balanced a past slot)
    (hslot : ∀ b, slot = some b →
      spread ≤ a.window ∧ Near spread xs b.windowStart ∧ Near spread xs b.lastSeen) :
    Balanced a (past ++ placeHistory slot xs) (placeAfter slot xs) := by
  -- `past` grows by one call with each tracked touch; a sweep leaves the place as it is.
  induction xs generalizing slot past with
  | nil => simpa [placeHistory, placeAfter] using h
  | cons x rest ih =>
    have htail : ∀ {t : Instant}, Near spread (x :: rest) t → Near spread rest t :=
      fun hnear y hy => hnear y (List.mem_cons_of_mem x hy)
    cases x with
    | track a' now =>
      obtain ⟨rfl, hwindow⟩ := hxs.tracked a' now List.mem_cons_self
      rw [placeHistory_track, placeAfter, List.append_cons]
      apply ih hxs.tail
      · apply h.track
        intro b hb
        have hin := (hslot b hb).2.1 (.track a' now) List.mem_cons_self
        simp only [Touch.time] at hin
        exact Int.le_trans hin hwindow
      · intro b hb
        obtain rfl := Option.some.inj hb
        refine ⟨hwindow, trackPlace_times (fun y hy => ?_) fun b hb => ?_⟩
        · have hclose := hxs.close y (List.mem_cons_of_mem _ hy) _ List.mem_cons_self
          simpa only [Touch.time] using hclose
        · exact ⟨htail (hslot b hb).2.1, htail (hslot b hb).2.2⟩
    | sweep now retention =>
      have hkept : slot.filter (·.isKept now retention) = slot := by
        cases slot with
        | none => rfl
        | some b =>
          obtain ⟨hwindow, -, hseen⟩ := hslot b rfl
          have hidle := hseen (.sweep now retention) List.mem_cons_self
          have hretention := hxs.retention now retention List.mem_cons_self
          simp only [Touch.time] at hidle
          exact Option.filter_some_pos
            (isKept_of_idle_le hidle (Int.le_trans hwindow a.window_le) hretention)
      rw [placeHistory_sweep, placeAfter, hkept]
      apply ih hxs.tail h
      intro b hb
      exact ⟨(hslot b hb).1, htail (hslot b hb).2.1, htail (hslot b hb).2.2⟩

/-- What has been counted under a key with `n` tracked calls: every so many of them, as the
    threshold says, one has triggered with just this count, and those left over are in the
    bucket. -/
structure Tallied (a : Rule.Aggregation) (n : Nat) (h : List Call) (slot : Option Bucket) :
    Prop where
  length_eq : h.length = n
  triggers_eq : h.countP (·.outcome.triggered) = n / a.threshold
  counts : ∀ c ∈ h, c.outcome.triggered = true → c.outcome.count = a.threshold
  rest_eq : slot.map (·.count) = if n = 0 then none else some (n % a.threshold)

theorem Balanced.tallied {a : Rule.Aggregation} {h : List Call} {slot : Option Bucket}
    (hbalanced : Balanced a h slot) : Tallied a h.length h slot := by
  obtain ⟨hbalance, hlt, hcounts, hheld⟩ := hbalanced
  have hpos : 0 < a.threshold := by omega
  have hdivmod : h.length / a.threshold = h.countP (·.outcome.triggered) ∧
      h.length % a.threshold = pending slot := by
    rw [Nat.div_mod_unique hpos, Nat.mul_comm]
    exact ⟨by omega, hlt⟩
  refine ⟨rfl, hdivmod.1.symm, hcounts, ?_⟩
  rw [hdivmod.2]
  cases slot with
  | none => rw [hheld.1 rfl, List.length_nil, if_pos rfl, Option.map_none]
  | some b =>
    have hne : h.length ≠ 0 := fun he => by simpa using hheld.2 (List.eq_nil_of_length_eq_zero he)
    rw [if_neg hne]
    rfl

/-- No sweep of a run removes a bucket. -/
def SweepsNothing (steps : List Step) : Prop :=
  ∀ before now retention later, steps = before ++ .sweep now retention :: later →
    (empty.run before).2.sweep now retention = (0, (empty.run before).2)

/-- **No event is lost and none counts twice, in any order.** Whatever order the calls of a short
    time are made in, the events of a key trigger as often as the threshold goes into their number,
    and the bucket keeps the remainder. -/
theorem tallied_in_any_order {calls order : List Step} (horder : order.Perm calls) {spread : Int}
    (hbrief : Brief spread calls) {key : Key} {a : Rule.Aggregation}
    (huniform : Uniform key.ruleId a calls) (hthreshold : 1 ≤ a.threshold) :
    Tallied a (calls.countP fun s => s.key? = some key) (history empty key order)
        ((empty.run order).2.find? key) ∧
      SweepsNothing order := by
  have hbrief' := hbrief.perm horder
  constructor
  · have hnone : Balanced a [] none :=
      ⟨by simp [pending], by simp only [pending]; exact hthreshold, by simp, by simp⟩
    have hbalanced := balanced_placeAfter (hbrief'.touches (huniform.perm horder)) hnone (by simp)
    rw [← horder.countP_eq, ← length_history empty, history_eq_placeHistory hasUniqueKeys_empty,
      find?_run hasUniqueKeys_empty]
    exact hbalanced.tallied
  · intro before now retention later heq
    rw [heq] at hbrief'
    exact sweep_of_brief hbrief'

/-- Three logins from one address, a login from another and a sweep, made in the order that is the
    reverse of that of their instants: the second login in this order triggers, and the third is
    left in the bucket. -/
theorem tallied_of_reversed_logins :
    let a : Rule.Aggregation := ⟨"ip", 2, Binary64.ofNat 60⟩
    let login (ip : String) (now : Instant) : Step :=
      .track "failed-login" (.object [("ip", .string ip)]) a now
    let calls := [login "10.0.0.9" ⟨1750000000, 0⟩, login "10.0.0.7" ⟨1750000001, 0⟩,
      .sweep ⟨1750000002, 0⟩ 60000000000, login "10.0.0.9" ⟨1750000030, 500⟩,
      login "10.0.0.9" ⟨1750000060, 0⟩]
    (history empty loginKey calls.reverse).map (·.outcome) = [⟨false, 1⟩, ⟨true, 2⟩, ⟨false, 1⟩] ∧
      Brief 60000000000 calls ∧ Uniform loginKey.ruleId a calls ∧ 1 ≤ a.threshold ∧
      Tallied a 3 (history empty loginKey calls.reverse)
        ((empty.run calls.reverse).2.find? loginKey) ∧
      SweepsNothing calls.reverse := by
  intro a login calls
  have hwindow : (60000000000 : Int) ≤ a.window := by decide +kernel
  have hsame : ∀ ruleId document a' now, Step.track ruleId document a' now ∈ calls → a' = a := by
    intro ruleId document a' now hmem
    simp only [calls, login, List.mem_cons, Step.track.injEq, reduceCtorEq, List.not_mem_nil,
      or_false, false_or] at hmem
    obtain ⟨-, -, he, -⟩ | ⟨-, -, he, -⟩ | ⟨-, -, he, -⟩ | ⟨-, -, he, -⟩ := hmem
    all_goals exact he
  have huniform : Uniform loginKey.ruleId a calls := hsame loginKey.ruleId
  have hbrief : Brief 60000000000 calls := by
    refine ⟨by decide +kernel, ?_, ?_⟩
    · intro ruleId document a' now hmem
      rw [hsame ruleId document a' now hmem]
      exact hwindow
    · intro now retention hmem
      simp only [calls, login, List.mem_cons, Step.sweep.injEq, reduceCtorEq, List.not_mem_nil,
        or_false, false_or] at hmem
      rw [hmem.2]
      decide
  have hcount : (calls.countP fun s => s.key? = some loginKey) = 3 := by decide +kernel
  have htallied := tallied_in_any_order (List.reverse_perm calls) hbrief huniform (by decide)
  rw [hcount] at htallied
  exact ⟨by decide +kernel, hbrief, huniform, by decide, htallied⟩

end Watchpost.Tracker
