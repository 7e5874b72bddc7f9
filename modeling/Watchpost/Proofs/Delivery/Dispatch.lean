import Mathlib.Data.List.Forall2
import Watchpost.Delivery.Notifier
import Watchpost.Proofs.Engine.Routing

set_option autoImplicit false

/-! # Targets that do not disturb each other

Targets are called one after another, each within the time limit of its own call. What becomes of a
call is settled by its target and the limit alone: `Scripted.ending` says how, for targets that take
a given time and end in a given way. So a dispatch comes to a map over the targets, and the calls
that are recorded are those of the targets that were done in time. Timers go by a clock of whole
milliseconds: each counts up to the next of them, and a call that is due together with its limit
comes first. -/

namespace Watchpost

namespace Delivery

/-! ## Timers -/

/-- A timer that is set at a whole millisecond takes as long as at any other. -/
theorem ticks_add (start : Nat) (time : Duration) :
    Duration.ticks (start * 1000000 + time) = start + Duration.ticks time := by
  unfold Duration.ticks
  omega

theorem ticks_le_ticks {time time' : Duration} (h : time ≤ time') :
    Duration.ticks time ≤ Duration.ticks time' := by
  unfold Duration.ticks
  exact Nat.div_le_div_right (Nat.add_le_add_right h 999999)

/-- A timer of whole milliseconds is over before all that take longer. -/
theorem ticks_lt_ticks {millis : Nat} {time : Duration} (h : millis * 1000000 < time) :
    Duration.ticks (millis * 1000000) < Duration.ticks time := by
  unfold Duration.ticks
  omega

/-! ## Calls one after another -/

theorem deliverAll_cons {τ ω : Type} [Target τ ω] (limit : Duration) (ruleId : String) (a : Alert)
    (target : τ) (rest : List τ) (world : ω) :
    deliverAll limit ruleId a (target :: rest) world
      = ((deliver limit ruleId a target world).1 ::
            (deliverAll limit ruleId a rest (deliver limit ruleId a target world).2.2).1,
          (deliver limit ruleId a target world).2.1 ++
            (deliverAll limit ruleId a rest (deliver limit ruleId a target world).2.2).2.1,
          (deliverAll limit ruleId a rest (deliver limit ruleId a target world).2.2).2.2) :=
  rfl

/-- A target of which it is known how long it takes, and how it ends. -/
structure Scripted where
  name : String
  delay : Duration
  error : Option Error

namespace Scripted

/-- The target that does what is written. The timer that it waits for goes off at a whole
    millisecond. -/
def target (s : Scripted) : Notifier :=
  .rehearsal ⟨s.name, Duration.ticks s.delay, s.error⟩

/-- Whether a target is done within a time limit, both counted up to the next millisecond. -/
def isDone (limit : Duration) (s : Scripted) : Bool :=
  Duration.ticks s.delay ≤ Duration.ticks limit

/-- How the call of a target ends that is given a time limit. -/
def ending (limit : Duration) (s : Scripted) : Option Error :=
  if s.isDone limit then s.error else some (.timedOut limit)

/-- What is recorded about the call of a target that was done. -/
def entry (a : Alert) (s : Scripted) : String :=
  a.ruleId ++ ":" ++ s.name

/-- How the calls of targets end that are made one after another by a clock of whole milliseconds.
    The timers of a call and of its limit are set when the clock is at `clock`, which is a whole
    number of milliseconds; the call is done if its timer goes off no later, and the next call
    starts with the first of the two, so again at a whole millisecond. -/
def endings (limit : Duration) : Nat → List Scripted → List (Option Error)
  | _, [] => []
  | clock, s :: rest =>
    let due := Duration.ticks (clock * 1000000 + s.delay)
    let cutoff := Duration.ticks (clock * 1000000 + limit)
    (if due ≤ cutoff then s.error else some (.timedOut limit)) ::
      endings limit (min due cutoff) rest

/-- Calls end as they do alone, at whatever moment they start. -/
theorem endings_eq_map (limit : Duration) (clock : Nat) (ss : List Scripted) :
    endings limit clock ss = ss.map (ending limit) := by
  induction ss generalizing clock with
  | nil => rfl
  | cons s rest ih =>
    have hfirst : (if clock + Duration.ticks s.delay ≤ clock + Duration.ticks limit then s.error
        else some (.timedOut limit)) = s.ending limit := by
      unfold ending isDone
      simp only [Nat.add_le_add_iff_left, decide_eq_true_eq]
    rw [endings, ih, ticks_add, ticks_add, hfirst, List.map_cons]

theorem deliver_target (limit : Duration) (ruleId : String) (a : Alert) (s : Scripted)
    (world : Surroundings) :
    deliver limit ruleId a s.target world
      = (⟨s.target, a, s.ending limit⟩, [report ruleId s.name (s.ending limit)],
          if s.isDone limit then { world with rehearsed := world.rehearsed ++ [s.entry a] }
          else world) := by
  have hinTime : inTime limit (Duration.ticks s.delay) = s.isDone limit := rfl
  unfold deliver ending
  dsimp only [Target.attempt, target, Notifier.call, Notifier.callRehearsal]
  rw [hinTime]
  by_cases hdone : s.isDone limit = true
  · rw [if_pos hdone, if_pos hdone, if_pos hdone]
    cases s.error <;> rfl
  · rw [if_neg hdone, if_neg hdone, if_neg hdone]
    rfl

/-- Calls of targets one after another: each ends as it does alone, and those that are done in time
    are recorded. -/
theorem deliverAll_targets (limit : Duration) (ruleId : String) (a : Alert) (ss : List Scripted)
    (world : Surroundings) :
    deliverAll limit ruleId a (ss.map target) world
      = (ss.map fun s => ⟨s.target, a, s.ending limit⟩,
          ss.map fun s => report ruleId s.name (s.ending limit),
          { world with rehearsed := world.rehearsed ++
              (ss.filter (isDone limit)).map (entry a) }) := by
  induction ss generalizing world with
  | nil => simp [deliverAll]
  | cons s rest ih =>
    rw [List.map_cons, deliverAll_cons, deliver_target, ih]
    by_cases hdone : s.isDone limit = true
    · simp [hdone]
    · simp [hdone]

end Scripted

end Delivery

namespace Dispatcher

open Delivery

/-- A dispatch to targets that take a given time and end in a given way. -/
theorem dispatch_targets (d : Dispatcher Notifier) (ruleId : String) (ss : List Scripted)
    (a : Alert) (world : Surroundings) :
    ((d.setTargets ruleId (ss.map Scripted.target)).dispatch ruleId a world).1
        = (ss.map fun s => ⟨s.target, a, s.ending d.limit⟩) ∧
      ((d.setTargets ruleId (ss.map Scripted.target)).dispatch ruleId a world).2.2
        = { world with rehearsed := world.rehearsed ++
              (ss.filter (Scripted.isDone d.limit)).map (Scripted.entry a) } := by
  have htargets : (d.setTargets ruleId (ss.map Scripted.target)).targetsOf ruleId
      = ss.map Scripted.target := by
    rw [targetsOf_setTargets, if_pos rfl]
  have hlimit : (d.setTargets ruleId (ss.map Scripted.target)).limit = d.limit := rfl
  unfold dispatch
  rw [htargets, hlimit]
  cases ss with
  | nil => simp
  | cons s rest =>
    have hall := Scripted.deliverAll_targets d.limit ruleId a (s :: rest) world
    rw [List.map_cons] at hall ⊢
    exact ⟨congrArg (·.1) hall, congrArg (·.2.2) hall⟩

/-- What the call of one target of a dispatch comes to. -/
structure IsCallOf (d : Dispatcher Notifier) (ruleId : String) (a : Alert) (s : Scripted)
    (c : Call Notifier) : Prop where
  target_eq : c.target = s.target
  channel_eq : c.target.channel = s.name
  alert_eq : c.alert = a
  /-- The call ends as it does if the target is the only one, whatever happened before. -/
  alone : ∀ before : Surroundings,
    ((d.setTargets ruleId [s.target]).dispatch ruleId a before).1 = [c]
  success_iff : c.success = true ↔ c.error = none
  error_eq_none_iff :
    c.error = none ↔ s.error = none ∧ Duration.ticks s.delay ≤ Duration.ticks d.limit
  error_eq : Duration.ticks s.delay ≤ Duration.ticks d.limit → c.error = s.error
  timedOut : Duration.ticks d.limit < Duration.ticks s.delay →
    c.error = some (.timedOut d.limit)
  /-- A target that takes no longer than the limit is done within it. -/
  error_eq_of_le : s.delay ≤ d.limit → c.error = s.error
  /-- A target that takes longer is not, if the limit is one of whole milliseconds. -/
  timedOut_of_lt : ∀ millis, d.limit = millis * 1000000 → d.limit < s.delay →
    c.error = some (.timedOut d.limit)

theorem isCallOf (d : Dispatcher Notifier) (ruleId : String) (a : Alert) (s : Scripted) :
    IsCallOf d ruleId a s ⟨s.target, a, s.ending d.limit⟩ := by
  have hdone : s.isDone d.limit = true ↔ Duration.ticks s.delay ≤ Duration.ticks d.limit :=
    decide_eq_true_iff
  have herror : Duration.ticks s.delay ≤ Duration.ticks d.limit → s.ending d.limit = s.error :=
    fun hle => if_pos (hdone.2 hle)
  have htimedOut : Duration.ticks d.limit < Duration.ticks s.delay →
      s.ending d.limit = some (.timedOut d.limit) :=
    fun hlt => if_neg fun h => Nat.not_le.2 hlt (hdone.1 h)
  constructor
  case target_eq => rfl
  case channel_eq => rfl
  case alert_eq => rfl
  case alone => exact fun before => (dispatch_targets d ruleId [s] a before).1
  case success_iff => exact Option.isNone_iff_eq_none
  case error_eq_none_iff =>
    rcases Nat.lt_or_ge (Duration.ticks d.limit) (Duration.ticks s.delay) with hlt | hle
    · simp [htimedOut hlt, Nat.not_le.2 hlt]
    · simp [herror hle, hle]
  case error_eq => exact herror
  case timedOut => exact htimedOut
  case error_eq_of_le => exact fun hle => herror (ticks_le_ticks hle)
  case timedOut_of_lt =>
    intro millis hwhole hlt
    apply htimedOut
    rw [hwhole] at hlt ⊢
    exact ticks_lt_ticks hlt

/-- **Each target of a dispatch is called as if it were the only one.** For every list of targets,
    with whatever names, delays and outcomes, and every time limit there is one call for each
    target, in order, and it ends as if it were the only one; so do calls that are timed one after
    another by a clock of whole milliseconds, whatever it shows when the first one starts. Without
    an error end exactly those that succeed within the limit, where delays and the limit count up to
    the next whole millisecond; the others that are done within it end with their own error, and all
    that are not with that of the limit. Recorded are the calls of all targets that are done within
    the limit, in order, and nothing else about the world changes. -/
theorem calls_independent (d : Dispatcher Notifier) (ruleId : String) (ss : List Scripted)
    (a : Alert) (world : Surroundings) :
    let outcome := (d.setTargets ruleId (ss.map Scripted.target)).dispatch ruleId a world
    List.Forall₂ (IsCallOf d ruleId a) ss outcome.1 ∧
      (∀ clock, outcome.1.map Call.error = Scripted.endings d.limit clock ss) ∧
      outcome.2.2 = { world with
        rehearsed := world.rehearsed ++ ((ss.filter fun s =>
          Duration.ticks s.delay ≤ Duration.ticks d.limit).map (Scripted.entry a)) } := by
  intro outcome
  obtain ⟨hcalls, hworld⟩ := dispatch_targets d ruleId ss a world
  refine ⟨?_, ?_, hworld⟩
  · rw [hcalls, List.forall₂_map_right_iff, List.forall₂_same]
    exact fun s _ => isCallOf d ruleId a s
  · intro clock
    rw [hcalls, Scripted.endings_eq_map, List.map_map]
    rfl

/-- A limit below a millisecond does not keep a target from finishing that takes a whole one. -/
theorem delay_beyond_limit_finishes :
    ¬∀ (d : Dispatcher Notifier) (ruleId : String) (ss : List Scripted) (a : Alert)
      (world : Surroundings), List.Forall₂
        (fun s c => d.limit < s.delay → c.error = some (.timedOut d.limit)) ss
        ((d.setTargets ruleId (ss.map Scripted.target)).dispatch ruleId a world).1 := by
  intro h
  have hcalls := h (Dispatcher.empty 250000) "r" [⟨"slow", 1000000, none⟩] default {}
  cases hcalls with
  | cons hslow _ =>
    have herror : none = some (Error.timedOut 250000) := hslow (by decide)
    exact absurd herror (by simp)

end Dispatcher

end Watchpost
