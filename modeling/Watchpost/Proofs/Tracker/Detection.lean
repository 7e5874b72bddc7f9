import Watchpost.Proofs.Tracker.Run

set_option autoImplicit false

/-! # Which bursts trigger

A tumbling window misses some bursts that reach the threshold, since the window that is open when a
burst begins may end within it. It misses none that is nearly twice as long: of `2 * threshold - 1`
calls of a key within one window, one triggers. The invariant is `Tracker.Quiet`. Before a window
has begun within the burst, all its calls are in the count; the window that then begins lasts to the
end of the burst, no sweep drops its bucket, and only the calls before it are missing from the
count. -/

namespace Watchpost.Tracker

/-! ## The times of a history -/

/-- A history has its instants from the touches, in their order. -/
theorem times_placeHistory_sublist (slot : Option Bucket) (xs : List Touch) :
    ((placeHistory slot xs).map Call.time).Sublist (xs.map Touch.time) := by
  induction xs generalizing slot with
  | nil => exact List.Sublist.refl _
  | cons x rest ih =>
    cases x with
    | track a now =>
      rw [placeHistory_track, List.map_cons, List.map_cons]
      exact (ih _).cons_cons now
    | sweep now retention =>
      rw [placeHistory_sweep, List.map_cons]
      exact (ih _).cons now

theorem Orderly.pairwise_placeHistory {a : Rule.Aggregation} {xs : List Touch}
    (h : Orderly a xs) (slot : Option Bucket) :
    (placeHistory slot xs).Pairwise fun c d => c.time ≤ d.time := by
  have htimes : (xs.map Touch.time).Pairwise (· ≤ ·) := List.pairwise_map.2 h.chronological
  exact List.pairwise_map.1 (htimes.sublist (times_placeHistory_sublist slot xs))

theorem exists_touch_of_mem {slot : Option Bucket} {xs : List Touch} {c : Call}
    (h : c ∈ placeHistory slot xs) : ∃ x ∈ xs, x.time = c.time :=
  List.mem_map.1 ((times_placeHistory_sublist slot xs).subset (List.mem_map_of_mem h))

theorem head_time_le {h : List Call} (hsorted : h.Pairwise fun c d => c.time ≤ d.time)
    {first : Call} (hfirst : h.head? = some first) : ∀ c ∈ h, first.time ≤ c.time := by
  obtain ⟨tail, rfl⟩ := List.head?_eq_some_iff.1 hfirst
  intro c hc
  rcases List.mem_cons.1 hc with rfl | hc
  · exact Instant.le_refl _
  · exact (List.pairwise_cons.1 hsorted).1 c hc

theorem time_le_getLast {h : List Call} (hsorted : h.Pairwise fun c d => c.time ≤ d.time)
    {last : Call} (hlast : h.getLast? = some last) : ∀ c ∈ h, c.time ≤ last.time := by
  obtain ⟨init, rfl⟩ := List.getLast?_eq_some_iff.1 hlast
  intro c hc
  rcases List.mem_append.1 hc with hc | hc
  · exact (List.pairwise_append.1 hsorted).2.2 c hc last List.mem_cons_self
  · rw [List.mem_singleton.1 hc]
    exact Instant.le_refl _

/-! ## Bursts without a trigger -/

/-- A bucket whose window began within a burst, which `start` begins, after `n` of its calls. Only
    calls before the window are missing from its count. -/
structure Begun (a : Rule.Aggregation) (start : Instant) (n : Nat) (b : Bucket) : Prop where
  start_le : start ≤ b.windowStart
  start_le_seen : start ≤ b.lastSeen
  start_regular : b.windowStart.IsRegular
  seen_regular : b.lastSeen.IsRegular
  count_lt : b.count < a.threshold
  lt_add_count : n < a.threshold + b.count

/-- What a place may hold after `n` calls of a burst, none of which has triggered. Either all of
    them are in the count of whatever bucket there is, or a window has begun within the burst. -/
def Quiet (a : Rule.Aggregation) (start : Instant) (n : Nat) (slot : Option Bucket) : Prop :=
  (n < a.threshold ∧ ∀ b, slot = some b → n ≤ b.count) ∨ ∃ b, slot = some b ∧ Begun a start n b

theorem Quiet.lt {a : Rule.Aggregation} {start : Instant} {n : Nat} {slot : Option Bucket}
    (h : Quiet a start n slot) : n + 1 < 2 * a.threshold := by
  rcases h with ⟨hn, -⟩ | ⟨b, -, hb⟩
  · omega
  · have := hb.count_lt
    have := hb.lt_add_count
    omega

/-- A call that counts from zero begins a window within the burst. -/
theorem begun_of_fresh_window {a : Rule.Aggregation} {start now : Instant} {n : Nat}
    (hstart : start ≤ now) (hnow : now.IsRegular) (hn : n < a.threshold) (hone : 1 < a.threshold) :
    Begun a start (n + 1) ⟨1, now, now⟩ :=
  ⟨hstart, hstart, hnow, hnow, hone, Nat.add_lt_add_right hn 1⟩

/-- One more call of the burst that does not trigger. -/
theorem Quiet.track {a : Rule.Aggregation} {start now : Instant} {n : Nat} {slot : Option Bucket}
    (h : Quiet a start n slot) (hregular : start.IsRegular) (hnow : now.IsRegular)
    (hstart : start ≤ now) (hspan : now.since start ≤ a.window)
    (hquiet : (trackPlace slot a now).1.triggered = false) :
    Quiet a start (n + 1) (some (trackPlace slot a now).2) := by
  unfold trackPlace at *
  generalize hb : slot.getD (.fresh now) = b at *
  have hbelow : (b.roll a now).count + 1 < a.threshold ∧
      (b.track a now).2 = ⟨(b.roll a now).count + 1, (b.roll a now).windowStart, now⟩ := by
    rcases track_cases a now b with ⟨hbelow, htrack⟩ | ⟨-, htrack⟩
    · exact ⟨hbelow, by rw [htrack]⟩
    · simp [htrack] at hquiet
  obtain ⟨hbelow, htrack⟩ := hbelow
  rw [htrack]
  rcases h with ⟨hn, hall⟩ | ⟨b', rfl, hbegun⟩
  · -- The window that was open before the burst goes on, or a new one begins.
    rcases roll_cases a now b with ⟨-, hroll⟩ | ⟨-, hroll⟩
    · rw [hroll] at hbelow ⊢
      cases slot with
      | none =>
        subst hb
        exact Or.inr ⟨_, rfl, begun_of_fresh_window hstart hnow hn hbelow⟩
      | some b' =>
        obtain rfl : b' = b := hb
        have hold := hall b' rfl
        refine Or.inl ⟨by omega, ?_⟩
        intro b'' hb''
        obtain rfl := Option.some.inj hb''
        exact Nat.succ_le_succ hold
    · rw [hroll] at hbelow ⊢
      exact Or.inr ⟨_, rfl, begun_of_fresh_window hstart hnow hn hbelow⟩
  · -- The window began within the burst, and the burst fits into it.
    obtain rfl : b' = b := hb
    have hsince : now.since b'.windowStart ≤ a.window :=
      Int.le_trans (Instant.since_le_since_left hregular hbegun.start_regular hnow hbegun.start_le)
        hspan
    rcases roll_cases a now b' with ⟨-, hroll⟩ | ⟨hover, -⟩
    · rw [hroll] at hbelow ⊢
      have hn := hbegun.lt_add_count
      exact Or.inr ⟨_, rfl, hbegun.start_le, hstart, hbegun.start_regular, hnow, hbelow,
        by simp only; omega⟩
    · omega

/-- A sweep between two calls of the burst. -/
theorem Quiet.sweep {a : Rule.Aggregation} {start now : Instant} {n retention : Nat}
    {slot : Option Bucket} (h : Quiet a start n slot) (hregular : start.IsRegular)
    (hnow : now.IsRegular) (hspan : now.since start ≤ a.window) (hretain : a.window ≤ retention) :
    Quiet a start n (slot.filter (·.isKept now retention)) := by
  rcases h with ⟨hn, hall⟩ | ⟨b, rfl, hbegun⟩
  · exact Or.inl ⟨hn, fun b hb => hall b (Option.filter_eq_some_iff.1 hb).1⟩
  · have hidle : now.since b.lastSeen ≤ a.window :=
      Int.le_trans
        (Instant.since_le_since_left hregular hbegun.seen_regular hnow hbegun.start_le_seen) hspan
    have hkept : b.isKept now retention = true := isKept_of_since_le hidle hretain
    exact Or.inr ⟨b, Option.filter_some_pos hkept, hbegun⟩

/-- A burst from `start` to `stop` that fits into one window, of which no call has triggered. -/
structure Untriggered (a : Rule.Aggregation) (start stop : Instant) (burst : List Call) : Prop where
  quiet : ∀ c ∈ burst, c.outcome.triggered = false
  start_le : ∀ c ∈ burst, start ≤ c.time
  le_stop : ∀ c ∈ burst, c.time ≤ stop
  span_le : stop.since start ≤ a.window
  start_regular : start.IsRegular
  stop_regular : stop.IsRegular

theorem Untriggered.tail {a : Rule.Aggregation} {start stop : Instant} {c : Call}
    {burst : List Call} (h : Untriggered a start stop (c :: burst)) :
    Untriggered a start stop burst where
  quiet d hd := h.quiet d (List.mem_cons_of_mem c hd)
  start_le d hd := h.start_le d (List.mem_cons_of_mem c hd)
  le_stop d hd := h.le_stop d (List.mem_cons_of_mem c hd)
  span_le := h.span_le
  start_regular := h.start_regular
  stop_regular := h.stop_regular

/-- Up to its end a burst is not longer than a window. -/
theorem Untriggered.since_le {a : Rule.Aggregation} {start stop now : Instant} {burst : List Call}
    (h : Untriggered a start stop burst) (hnow : now.IsRegular) (hle : now ≤ stop) :
    now.since start ≤ a.window :=
  Int.le_trans (Instant.since_le_since_right h.start_regular hnow h.stop_regular hle) h.span_le

/-- The rest of a burst that does not trigger, after `n` of its calls. -/
theorem length_quiet_lt {a : Rule.Aggregation} {start stop : Instant} {xs : List Touch}
    (hxs : Orderly a xs)
    (hretain : ∀ now (retention : Nat), .sweep now retention ∈ xs → a.window ≤ retention)
    (hregular : ∀ x ∈ xs, x.time ≤ stop → x.time.IsRegular) {slot : Option Bucket} {n : Nat}
    (hquiet : Quiet a start n slot) {burst rest : List Call}
    (hhistory : placeHistory slot xs = burst ++ rest) (hburst : Untriggered a start stop burst) :
    n + burst.length + 1 < 2 * a.threshold := by
  induction xs generalizing slot n burst with
  | nil =>
    obtain ⟨rfl, -⟩ := List.append_eq_nil_iff.1 hhistory.symm
    exact hquiet.lt
  | cons x xs ih =>
    cases burst with
    | nil => exact hquiet.lt
    | cons c burst =>
      have hretain' := fun now (retention : Nat) h =>
        hretain now retention (List.mem_cons_of_mem x h)
      have hregular' := fun y hy => hregular y (List.mem_cons_of_mem x hy)
      cases x with
      | track a' now =>
        obtain rfl : a' = a := hxs.uniform a' now List.mem_cons_self
        rw [placeHistory_track, List.cons_append, List.cons.injEq] at hhistory
        obtain ⟨rfl, hhistory⟩ := hhistory
        have hstop : now ≤ stop := hburst.le_stop _ List.mem_cons_self
        have hnow : now.IsRegular := hregular _ List.mem_cons_self hstop
        have hquiet' := hquiet.track hburst.start_regular hnow
          (hburst.start_le _ List.mem_cons_self) (hburst.since_le hnow hstop)
          (hburst.quiet _ List.mem_cons_self)
        have hlt := ih hxs.tail hretain' hregular' hquiet' hhistory hburst.tail
        rw [List.length_cons]
        omega
      | sweep now retention =>
        rw [placeHistory_sweep] at hhistory
        -- The next call of the burst is not earlier than the sweep.
        have hmem : c ∈ placeHistory (slot.filter (·.isKept now retention)) xs := by
          simp [hhistory]
        obtain ⟨y, hy, hyc⟩ := exists_touch_of_mem hmem
        have hstop : now ≤ stop :=
          Instant.le_trans (hyc ▸ hxs.head_le y hy) (hburst.le_stop c List.mem_cons_self)
        have hnow : now.IsRegular := hregular _ List.mem_cons_self hstop
        have hquiet' := hquiet.sweep hburst.start_regular hnow (hburst.since_le hnow hstop)
          (hretain now retention List.mem_cons_self)
        exact ih hxs.tail hretain' hregular' hquiet' hhistory hburst

/-- The same of a whole burst, which other calls of the place come before. -/
theorem length_quiet_lt_of_append {a : Rule.Aggregation} {start stop : Instant} {xs : List Touch}
    (hxs : Orderly a xs) (hthreshold : 1 ≤ a.threshold)
    (hretain : ∀ now (retention : Nat), .sweep now retention ∈ xs → a.window ≤ retention)
    (hregular : ∀ x ∈ xs, start ≤ x.time → x.time ≤ stop → x.time.IsRegular)
    {slot : Option Bucket} {before burst rest : List Call} {first : Call}
    (hhistory : placeHistory slot xs = before ++ (first :: burst ++ rest))
    (hfirst : first.time = start) (hburst : Untriggered a start stop (first :: burst)) :
    (first :: burst).length + 1 < 2 * a.threshold := by
  induction xs generalizing slot before with
  | nil => simp [placeHistory] at hhistory
  | cons x xs ih =>
    have hretain' := fun now (retention : Nat) h =>
      hretain now retention (List.mem_cons_of_mem x h)
    have hregular' := fun y hy => hregular y (List.mem_cons_of_mem x hy)
    cases x with
    | track a' now =>
      obtain rfl : a' = a := hxs.uniform a' now List.mem_cons_self
      rw [placeHistory_track] at hhistory
      cases before with
      | nil =>
        -- The burst begins here, with whatever the place holds.
        rw [List.nil_append, List.cons_append, List.cons.injEq] at hhistory
        obtain ⟨rfl, hhistory⟩ := hhistory
        obtain rfl : now = start := hfirst
        have hquiet : Quiet a' now 0 slot := Or.inl ⟨hthreshold, fun b _ => Nat.zero_le b.count⟩
        have hstop : now ≤ stop := hburst.le_stop _ List.mem_cons_self
        have hquiet' := hquiet.track hburst.start_regular hburst.start_regular
          (Instant.le_refl now) (hburst.since_le hburst.start_regular hstop)
          (hburst.quiet _ List.mem_cons_self)
        have hlt := length_quiet_lt hxs.tail hretain'
          (fun y hy => hregular' y hy (hxs.head_le y hy)) hquiet' hhistory hburst.tail
        rw [List.length_cons]
        omega
      | cons c before =>
        rw [List.cons_append, List.cons.injEq] at hhistory
        exact ih hxs.tail hretain' hregular' hhistory.2
    | sweep now retention =>
      rw [placeHistory_sweep] at hhistory
      exact ih hxs.tail hretain' hregular' hhistory

/-! ## Whole runs -/

/-- **Which bursts are detected.** Of `2 * threshold - 1` calls of a key that follow one another in
    its history and fall into one window, at least one triggers, whatever came before them. No call
    of the run from the first of them to the last may be made within a leap second. -/
theorem burst_triggers {steps : List Step} {key : Key} {a : Rule.Aggregation}
    (huniform : Uniform key.ruleId a steps) (hthreshold : 1 ≤ a.threshold)
    (hretain : Retaining a steps) (hchron : Chronological steps)
    {before burst rest : List Call} (hhistory : history empty key steps = before ++ burst ++ rest)
    (hlength : burst.length = 2 * a.threshold - 1) {first last : Call}
    (hfirst : burst.head? = some first) (hlast : burst.getLast? = some last)
    (hspan : last.time.since first.time ≤ a.window)
    (hregular : ∀ s ∈ steps, first.time ≤ s.time → s.time ≤ last.time → s.time.IsRegular) :
    ∃ c ∈ burst, c.outcome.triggered = true := by
  rw [history_eq_placeHistory hasUniqueKeys_empty, find?_empty, List.append_assoc] at hhistory
  have hxs : Orderly a (touches key steps) := orderly_touches huniform hchron
  have hxregular : ∀ x ∈ touches key steps,
      first.time ≤ x.time → x.time ≤ last.time → x.time.IsRegular := by
    intro x hx
    obtain ⟨s, hs, hsx⟩ := exists_step_of_mem_touches hx
    exact hsx ▸ hregular s hs
  have hmem : ∀ c ∈ burst, ∃ x ∈ touches key steps, x.time = c.time := by
    intro c hc
    exact exists_touch_of_mem (by simp [hhistory, hc] : c ∈ placeHistory none (touches key steps))
  have hsorted : burst.Pairwise fun c d => c.time ≤ d.time := by
    refine (hxs.pairwise_placeHistory none).sublist ?_
    rw [hhistory]
    exact (List.sublist_append_left burst rest).trans (List.sublist_append_right before _)
  have hfirst_le := head_time_le hsorted hfirst
  have hle_last := time_le_getLast hsorted hlast
  obtain ⟨tail, rfl⟩ := List.head?_eq_some_iff.1 hfirst
  have hcalls : ∀ c ∈ first :: tail, c.time.IsRegular := by
    intro c hc
    obtain ⟨x, hx, hxc⟩ := hmem c hc
    rw [← hxc]
    exact hxregular x hx (hxc ▸ hfirst_le c hc) (hxc ▸ hle_last c hc)
  apply Classical.byContradiction
  intro hnone
  have hburst : Untriggered a first.time last.time (first :: tail) :=
    { quiet := fun c hc => by
        cases htriggered : c.outcome.triggered with
        | false => rfl
        | true => exact absurd ⟨c, hc, htriggered⟩ hnone
      start_le := hfirst_le
      le_stop := hle_last
      span_le := hspan
      start_regular := hcalls first List.mem_cons_self
      stop_regular := hcalls last (List.mem_of_getLast? hlast) }
  have hshort := length_quiet_lt_of_append hxs hthreshold
    (fun now (retention : Nat) h => hretain now retention (mem_touches_sweep h)) hxregular hhistory
    rfl hburst
  omega

/-- Six logins, the window of the first two of which ends within the burst of the last five. -/
def straddlingLogins : List Step :=
  loginsAt ⟨"ip", 3, Binary64.ofNat 60⟩ [⟨1750000000, 0⟩, ⟨1750000050, 0⟩, ⟨1750000061, 0⟩,
    ⟨1750000062, 0⟩, ⟨1750000063, 0⟩, ⟨1750000064, 0⟩]

/-- The third login of the new window triggers; the burst has one before it and one after it. -/
theorem burst_triggers_straddling :
    ((history empty loginKey straddlingLogins).map (·.outcome.count) = [1, 2, 1, 2, 3, 1]) ∧
      ∃ c ∈ (history empty loginKey straddlingLogins).drop 1, c.outcome.triggered = true := by
  have hhistory : history empty loginKey straddlingLogins
      = (history empty loginKey straddlingLogins).take 1
        ++ (history empty loginKey straddlingLogins).drop 1 ++ [] := by
    rw [List.append_nil, List.take_append_drop]
  have hfirst : ((history empty loginKey straddlingLogins).drop 1).head?
      = some ⟨⟨1750000050, 0⟩, ⟨false, 2⟩⟩ := by decide +kernel
  have hlast : ((history empty loginKey straddlingLogins).drop 1).getLast?
      = some ⟨⟨1750000064, 0⟩, ⟨false, 1⟩⟩ := by decide +kernel
  refine ⟨by decide +kernel, burst_triggers (uniform_loginsAt _ _ _) (by decide) ?_ (by decide)
    hhistory (by decide +kernel) hfirst hlast (by decide +kernel) (by decide)⟩
  exact retaining_loginsAt _ _ _

/-- Six logins around the end of the year 2016, the fifth of them within its leap second. -/
def loginsAroundLeapSecond : List Step :=
  loginsAt ⟨"ip", 3, Binary64.ofNat 1⟩ [⟨1483228798, 400000000⟩, ⟨1483228799, 100000000⟩,
    ⟨1483228799, 500000000⟩, ⟨1483228799, 600000000⟩, ⟨1483228799, 1900000000⟩, ⟨1483228800, 0⟩]

/-- A leap second lets a burst slip through. The last five logins are 0.9 seconds from end to end,
    but the one within the leap second is 1.4 seconds after the second of them, so that two windows
    of one second end within the burst. -/
theorem burst_missed_around_leap_second :
    let a : Rule.Aggregation := ⟨"ip", 3, Binary64.ofNat 1⟩
    let burst := (history empty loginKey loginsAroundLeapSecond).drop 1
    Uniform loginKey.ruleId a loginsAroundLeapSecond ∧ 1 ≤ a.threshold ∧
      Retaining a loginsAroundLeapSecond ∧ Chronological loginsAroundLeapSecond ∧
      burst.length = 2 * a.threshold - 1 ∧
      (∃ first last, burst.head? = some first ∧ burst.getLast? = some last ∧
        last.time.since first.time ≤ a.window) ∧
      ¬ ∃ c ∈ burst, c.outcome.triggered = true := by
  refine ⟨uniform_loginsAt _ _ _, by decide, ?_, by decide, by decide +kernel,
    ⟨⟨⟨1483228799, 100000000⟩, ⟨false, 2⟩⟩, ⟨⟨1483228800, 0⟩, ⟨false, 2⟩⟩, ?_, ?_, ?_⟩, ?_⟩
  · exact retaining_loginsAt _ _ _
  all_goals decide +kernel

end Watchpost.Tracker
