import Mathlib.Order.Interval.Finset.Nat
import Watchpost.Proofs.Tracker.Run

set_option autoImplicit false

/-! # What stands behind a trigger

When a call triggers, the calls of its key that it counts are the last ones, as many as the
threshold says, all within one window, and no earlier trigger counted any of them. The invariant is
`Tracker.Accounts`: the count of a bucket is a number of calls at the end of the key's history that
have not triggered and fall into the window of the bucket. -/

namespace Watchpost.Tracker

/-! ## Backed histories -/

/-- The positions, in the history of a key, of the calls behind a trigger at position `i`: as many
    as the threshold says, the last of them at `i`. -/
def behind (threshold i : Nat) : Finset Nat :=
  Finset.Ico (i + 1 - threshold) (i + 1)

/-- What a trigger `c` at position `i` of a history rests on. -/
structure IsBacked (a : Rule.Aggregation) (h : List Call) (i : Nat) (c : Call) : Prop where
  count_eq : c.outcome.count = a.threshold
  card_behind : (behind a.threshold i).card = a.threshold
  not_after : ∀ j ∈ behind a.threshold i, ∀ d, h[j]? = some d → d.time ≤ c.time
  /-- The calls behind the trigger fall into the window that ends with it, if no call so far was
      made within a leap second. -/
  within : 0 ≤ a.window → (∀ d ∈ h.take (i + 1), d.time.IsRegular) →
    ∀ j ∈ behind a.threshold i, ∀ d, h[j]? = some d → c.time.since d.time ≤ a.window
  /-- None of them is behind an earlier trigger. -/
  disjoint : ∀ k < i, ∀ d, h[k]? = some d → d.outcome.triggered = true →
    Disjoint (behind a.threshold k) (behind a.threshold i)

/-- A history whose triggers rest on calls of their own. -/
structure Backed (a : Rule.Aggregation) (h : List Call) : Prop where
  each : ∀ i c, h[i]? = some c → c.outcome.triggered = true → IsBacked a h i c
  triggers_le : h.countP (·.outcome.triggered) * a.threshold ≤ h.length

theorem card_behind {threshold i : Nat} (h : threshold ≤ i + 1) :
    (behind threshold i).card = threshold := by
  rw [behind, Nat.card_Ico]
  omega

theorem lt_of_mem_behind {threshold i j : Nat} (h : j ∈ behind threshold i) : j < i + 1 :=
  (Finset.mem_Ico.1 h).2

/-- Whether a trigger is backed depends on the history up to it alone. -/
theorem IsBacked.append {a : Rule.Aggregation} {h : List Call} {i : Nat} {c : Call}
    (hi : i < h.length) (hbacked : IsBacked a h i c) (future : List Call) :
    IsBacked a (h ++ future) i c where
  count_eq := hbacked.count_eq
  card_behind := hbacked.card_behind
  not_after j hj d hd := by
    rw [List.getElem?_append_left (by have := lt_of_mem_behind hj; omega)] at hd
    exact hbacked.not_after j hj d hd
  within hwindow hregular j hj d hd := by
    rw [List.getElem?_append_left (by have := lt_of_mem_behind hj; omega)] at hd
    rw [List.take_append_of_le_length hi] at hregular
    exact hbacked.within hwindow hregular j hj d hd
  disjoint k hk d hd := by
    rw [List.getElem?_append_left (hk.trans hi)] at hd
    exact hbacked.disjoint k hk d hd

/-! ## What a bucket stands for -/

/-- The window of a bucket began with the event at `now`, or with a call of the history. -/
def Began (past : List Call) (now : Instant) (b : Bucket) : Prop :=
  b.windowStart = now ∨ ∃ c ∈ past, c.time = b.windowStart

theorem Began.roll {past : List Call} {now : Instant} {b : Bucket} (h : Began past now b)
    (a : Rule.Aggregation) : Began past now (b.roll a now) := by
  unfold Began
  rcases windowStart_roll a now b with he | he
  · rw [he]
    exact h
  · exact Or.inl he

theorem Began.track {past : List Call} {now : Instant} {b : Bucket} (h : Began past now b)
    (a : Rule.Aggregation) (outcome : Outcome) :
    ∃ c ∈ past ++ [⟨now, outcome⟩], c.time = (b.track a now).2.windowStart := by
  have hlast : ∃ c ∈ past ++ [⟨now, outcome⟩], c.time = now :=
    ⟨⟨now, outcome⟩, List.mem_append_right past List.mem_cons_self, rfl⟩
  rcases windowStart_track a now b with he | he
  · rw [he]
    rcases h with hnow | ⟨c, hc, hstart⟩
    · rw [hnow]
      exact hlast
    · exact ⟨c, List.mem_append_left _ hc, hstart⟩
  · rw [he]
    exact hlast

theorem Began.windowStart_le {past : List Call} {now : Instant} {b : Bucket}
    (h : Began past now b) (hpast : ∀ c ∈ past, c.time ≤ now) : b.windowStart ≤ now := by
  rcases h with he | ⟨c, hc, he⟩
  · rw [he]
    exact Instant.le_refl now
  · exact he ▸ hpast c hc

theorem Began.isRegular {past : List Call} {now : Instant} {b : Bucket} (h : Began past now b)
    (hnow : now.IsRegular) (hpast : ∀ c ∈ past, c.time.IsRegular) : b.windowStart.IsRegular := by
  rcases h with he | ⟨c, hc, he⟩
  · rw [he]
    exact hnow
  · exact he ▸ hpast c hc

/-- The count of a bucket is a number of calls at the end of the history, none of which has
    triggered or is earlier than the window; the calls before them pay for all triggers. -/
structure Accounts (a : Rule.Aggregation) (past : List Call) (b : Bucket) : Prop where
  count_lt : b.count < a.threshold
  recent : ∃ older recent, past = older ++ recent ∧ recent.length = b.count ∧
    ∀ c ∈ recent, c.outcome.triggered = false ∧ b.windowStart ≤ c.time
  paid : past.countP (·.outcome.triggered) * a.threshold + b.count ≤ past.length

/-- A bucket that counts nothing stands for no call. -/
theorem accounts_of_count_eq_zero {a : Rule.Aggregation} {past : List Call} {b : Bucket}
    (hthreshold : 1 ≤ a.threshold) (hcount : b.count = 0)
    (hpaid : past.countP (·.outcome.triggered) * a.threshold ≤ past.length) :
    Accounts a past b where
  count_lt := by omega
  recent := ⟨past, [], by simp, by simp [hcount], by simp⟩
  paid := by omega

theorem Accounts.roll {a : Rule.Aggregation} {past : List Call} {b : Bucket}
    (h : Accounts a past b) (now : Instant) : Accounts a past (b.roll a now) := by
  rcases roll_cases a now b with ⟨-, hroll⟩ | ⟨-, hroll⟩
  · rw [hroll]
    exact h
  · rw [hroll]
    have hlt := h.count_lt
    have hpaid := h.paid
    exact accounts_of_count_eq_zero (by omega) rfl (by omega)

/-- Counting one more call keeps the account. -/
theorem Accounts.track {a : Rule.Aggregation} {past : List Call} {b : Bucket}
    (h : Accounts a past b) {now : Instant} (hbegan : Began past now b)
    (hpast : ∀ c ∈ past, c.time ≤ now) :
    Accounts a (past ++ [⟨now, (b.track a now).1⟩]) (b.track a now).2 := by
  obtain ⟨hlt, ⟨older, recent, heq, hlen, hrecent⟩, hpaid⟩ := h.roll now
  have hstart : (b.roll a now).windowStart ≤ now := (hbegan.roll a).windowStart_le hpast
  rcases track_cases a now b with ⟨hbelow, htrack⟩ | ⟨hreached, htrack⟩
  · rw [htrack]
    refine ⟨hbelow, ⟨older, recent ++ [⟨now, ⟨false, (b.roll a now).count + 1⟩⟩], ?_, ?_, ?_⟩, ?_⟩
    · rw [heq, List.append_assoc]
    · simp [hlen]
    · intro c hc
      rcases List.mem_append.1 hc with hc | hc
      · exact hrecent c hc
      · rw [List.mem_singleton.1 hc]
        exact ⟨rfl, hstart⟩
    · simp only [List.countP_append, List.countP_singleton, List.length_append,
        List.length_singleton]
      simp only [Bool.false_eq_true, if_false, Nat.add_zero]
      omega
  · -- The trigger takes the calls that were counted, so the new bucket stands for none.
    rw [htrack]
    refine accounts_of_count_eq_zero (by omega) rfl ?_
    simp only [List.countP_append, List.countP_singleton, List.length_append,
      List.length_singleton, if_true, Nat.add_mul, Nat.one_mul]
    omega

/-- An event falls into the window of the bucket in which it is counted. -/
theorem since_windowStart_roll_le {a : Rule.Aggregation} (hwindow : 0 ≤ a.window) (now : Instant)
    (b : Bucket) : now.since (b.roll a now).windowStart ≤ a.window := by
  rcases roll_cases a now b with ⟨hin, hroll⟩ | ⟨-, hroll⟩
  · rw [hroll]
    exact hin
  · rw [hroll, Instant.since_self]
    exact hwindow

/-- A call that triggers is backed by the calls that its bucket stands for. -/
theorem Accounts.isBacked {a : Rule.Aggregation} {past : List Call} {b : Bucket}
    (h : Accounts a past b) {now : Instant} (hbegan : Began past now b)
    (hpast : ∀ c ∈ past, c.time ≤ now) (htriggered : (b.track a now).1.triggered = true) :
    IsBacked a (past ++ [⟨now, (b.track a now).1⟩]) past.length ⟨now, (b.track a now).1⟩ := by
  obtain ⟨hlt, ⟨older, recent, heq, hlen, hrecent⟩, -⟩ := h.roll now
  rcases track_cases a now b with ⟨-, htrack⟩ | ⟨hreached, htrack⟩
  · simp [htrack] at htriggered
  -- All but one of the calls behind the trigger are the recent ones.
  have hcount : (b.roll a now).count + 1 = a.threshold := by omega
  have hlength : past.length = older.length + recent.length := by
    rw [heq, List.length_append]
  have hposition : past.length + 1 - a.threshold = older.length := by omega
  have hbehind : ∀ j ∈ behind a.threshold past.length, ∀ d,
      (past ++ [⟨now, (b.track a now).1⟩])[j]? = some d →
        d ∈ recent ∨ d = ⟨now, (b.track a now).1⟩ := by
    intro j hj d hd
    rw [behind, Finset.mem_Ico, hposition] at hj
    rcases Nat.lt_or_ge j past.length with hjlt | hjge
    · rw [List.getElem?_append_left hjlt, heq, List.getElem?_append_right hj.1] at hd
      exact Or.inl (List.mem_of_getElem? hd)
    · have hlast : j = past.length := by omega
      rw [hlast, List.getElem?_concat_length, Option.some.injEq] at hd
      exact Or.inr hd.symm
  refine ⟨?_, card_behind (by omega), ?_, ?_, ?_⟩
  · rw [htrack]
    exact hcount
  · intro j hj d hd
    rcases hbehind j hj d hd with hmem | rfl
    · exact hpast d (heq ▸ List.mem_append_right older hmem)
    · exact Instant.le_refl now
  · intro hwindow hregular j hj d hd
    rw [List.take_of_length_le (by simp)] at hregular
    have hnow : now.IsRegular := hregular _ (List.mem_append_right past List.mem_cons_self)
    have hold : ∀ c ∈ past, c.time.IsRegular :=
      fun c hc => hregular c (List.mem_append_left _ hc)
    rcases hbehind j hj d hd with hmem | rfl
    · calc now.since d.time
          ≤ now.since (b.roll a now).windowStart :=
            Instant.since_le_since_left ((hbegan.roll a).isRegular hnow hold)
              (hold d (heq ▸ List.mem_append_right older hmem)) hnow (hrecent d hmem).2
        _ ≤ a.window := since_windowStart_roll_le hwindow now b
    · rw [Instant.since_self]
      exact hwindow
  · intro k hk d hd hd'
    rw [List.getElem?_append_left hk, heq] at hd
    -- A call that has triggered is not a recent one, so that it and all behind it are older.
    have hold : k < older.length := by
      rcases Nat.lt_or_ge k older.length with hlt' | hge
      · exact hlt'
      · rw [List.getElem?_append_right hge] at hd
        have := (hrecent d (List.mem_of_getElem? hd)).1
        rw [hd'] at this
        exact absurd this (by simp)
    rw [Finset.disjoint_left]
    intro j hj hj'
    rw [behind, Finset.mem_Ico] at hj hj'
    omega

/-! ## Whole runs -/

theorem Backed.snoc {a : Rule.Aggregation} {past : List Call} {c : Call} (h : Backed a past)
    (hc : c.outcome.triggered = true → IsBacked a (past ++ [c]) past.length c)
    (hpaid : (past ++ [c]).countP (·.outcome.triggered) * a.threshold ≤ (past ++ [c]).length) :
    Backed a (past ++ [c]) where
  each := by
    intro i d hd htriggered
    rcases Nat.lt_or_ge i past.length with hlt | hge
    · rw [List.getElem?_append_left hlt] at hd
      exact (h.each i d hd htriggered).append hlt [c]
    · have hi : i = past.length := by
        have := (List.getElem?_eq_some_iff.1 hd).1
        simp only [List.length_append, List.length_singleton] at this
        omega
      subst hi
      rw [List.getElem?_concat_length, Option.some.injEq] at hd
      subst hd
      exact hc htriggered
  triggers_le := hpaid

theorem backed_append_placeHistory {a : Rule.Aggregation} (hthreshold : 1 ≤ a.threshold)
    {xs : List Touch} (hxs : Orderly a xs) {slot : Option Bucket} {past : List Call}
    (hbacked : Backed a past) (hpast : ∀ c ∈ past, ∀ x ∈ xs, c.time ≤ x.time)
    (hslot : ∀ b, slot = some b → Accounts a past b ∧ ∃ c ∈ past, c.time = b.windowStart) :
    Backed a (past ++ placeHistory slot xs) := by
  -- `past` grows by one call with each tracked touch; a sweep at most empties the place.
  induction xs generalizing slot past with
  | nil => simpa [placeHistory] using hbacked
  | cons x rest ih =>
    have hpast' : ∀ c ∈ past, ∀ y ∈ rest, c.time ≤ y.time :=
      fun c hc y hy => hpast c hc y (List.mem_cons_of_mem x hy)
    cases x with
    | track a' now =>
      obtain rfl : a' = a := hxs.uniform a' now List.mem_cons_self
      have hnow : ∀ c ∈ past, c.time ≤ now := fun c hc => hpast c hc _ List.mem_cons_self
      have hbucket : Accounts a' past (slot.getD (.fresh now)) ∧
          Began past now (slot.getD (.fresh now)) := by
        cases slot with
        | none => exact ⟨accounts_of_count_eq_zero hthreshold rfl hbacked.triggers_le, Or.inl rfl⟩
        | some b => exact (hslot b rfl).imp_right Or.inr
      obtain ⟨hacc, hbegan⟩ := hbucket
      have hacc' := hacc.track hbegan hnow
      rw [placeHistory_track, List.append_cons]
      apply ih hxs.tail
      · refine hbacked.snoc (hacc.isBacked hbegan hnow) ?_
        exact le_trans (Nat.le_add_right _ _) hacc'.paid
      · intro c hc
        rcases List.mem_append.1 hc with hc | hc
        · exact hpast' c hc
        · rw [List.mem_singleton.1 hc]
          exact hxs.head_le
      · intro b hb
        obtain rfl := Option.some.inj hb
        exact ⟨hacc', hbegan.track a' _⟩
    | sweep now retention =>
      rw [placeHistory_sweep]
      exact ih hxs.tail hbacked hpast' fun b hb => hslot b (Option.filter_eq_some_iff.1 hb).1

/-- **No false alarm and no double one.** When a call triggers, its count is the threshold, the
    calls behind it fall into the window that ends with it, except for what leap seconds do, and
    none of them is behind an earlier trigger. -/
theorem triggers_backed {steps : List Step} {key : Key} {a : Rule.Aggregation}
    (huniform : Uniform key.ruleId a steps) (hthreshold : 1 ≤ a.threshold)
    (hchron : Chronological steps) : Backed a (history empty key steps) := by
  rw [history_eq_placeHistory hasUniqueKeys_empty]
  have hnil : Backed a [] := ⟨by simp, by simp⟩
  exact backed_append_placeHistory hthreshold (orderly_touches huniform hchron) hnil (by simp)
    (by simp)

/-- Three logins within a window of a minute, the first two of which trigger together. -/
theorem triggers_backed_of_logins :
    (history empty loginKey (loginsAt ⟨"ip", 2, Binary64.ofNat 60⟩
        [⟨1750000000, 0⟩, ⟨1750000060, 0⟩, ⟨1750000061, 500⟩])).map (·.outcome)
      = [⟨false, 1⟩, ⟨true, 2⟩, ⟨false, 1⟩] ∧
      Backed ⟨"ip", 2, Binary64.ofNat 60⟩ (history empty loginKey
        (loginsAt ⟨"ip", 2, Binary64.ofNat 60⟩
          [⟨1750000000, 0⟩, ⟨1750000060, 0⟩, ⟨1750000061, 500⟩])) := by
  refine ⟨by decide +kernel, triggers_backed (uniform_loginsAt _ _ _) ?_ ?_⟩
  · decide
  · decide

/-- A call behind a trigger that is not within the window that ends with the trigger. -/
def HasStray (a : Rule.Aggregation) (h : List Call) : Prop :=
  ∃ i c j d, h[i]? = some c ∧ c.outcome.triggered = true ∧ j ∈ behind a.threshold i ∧
    h[j]? = some d ∧ a.window < c.time.since d.time

/-- The window matters, and so do leap seconds. A single event triggers by a window of a negative
    length, which holds no instant at all. And around the end of a leap second, here that of the
    year 2016, distances do not grow with time, so that a window of one second takes in an event
    that is 1.3 seconds old. -/
theorem triggers_not_backed :
    (let a : Rule.Aggregation := ⟨"ip", 1, Binary64.ofInt (-1)⟩
      let steps := loginsAt a [⟨1750000000, 0⟩]
      Uniform loginKey.ruleId a steps ∧ 1 ≤ a.threshold ∧ Chronological steps ∧
        HasStray a (history empty loginKey steps)) ∧
    (let a : Rule.Aggregation := ⟨"ip", 3, Binary64.ofNat 1⟩
      let steps := loginsAt a
        [⟨1483228799, 1500000000⟩, ⟨1483228800, 100000000⟩, ⟨1483228801, 400000000⟩]
      Uniform loginKey.ruleId a steps ∧ 1 ≤ a.threshold ∧ 0 ≤ a.window ∧ Chronological steps ∧
        HasStray a (history empty loginKey steps)) := by
  refine ⟨⟨uniform_loginsAt _ _ _, by decide, by decide, ?_⟩,
    ⟨uniform_loginsAt _ _ _, by decide, by decide +kernel, by decide, ?_⟩⟩
  · refine ⟨0, ⟨⟨1750000000, 0⟩, ⟨true, 1⟩⟩, 0, ⟨⟨1750000000, 0⟩, ⟨true, 1⟩⟩, ?_, rfl, ?_, ?_, ?_⟩
    all_goals decide +kernel
  · refine ⟨2, ⟨⟨1483228801, 400000000⟩, ⟨true, 3⟩⟩, 1, ⟨⟨1483228800, 100000000⟩, ⟨false, 2⟩⟩, ?_,
      rfl, ?_, ?_, ?_⟩
    all_goals decide +kernel

end Watchpost.Tracker
