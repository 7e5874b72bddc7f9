import Mathlib.Data.List.Forall2
import Watchpost.Proofs.Engine.Isolation

set_option autoImplicit false

/-! # Notification does not influence detection

Alerts are sent while an event is still going through the rules, and after the bucket behind an
alert has been reset. Still nothing that a target does shows in what is detected: two engines with
the same rules raise the same alerts and count the same, whatever targets they have and whatever
becomes of each call. Both come to `Rule.detectAll`, which knows no targets; of a stamp it shows the
identifier in the alerts alone. -/

namespace Watchpost

open Delivery (Target)

namespace Rule

/-! ## Stamps of one time -/

/-- Evaluations at one time raise one alert, up to its identifier, and leave one tracker. -/
theorem evaluate_of_time_eq {stamp stamp' : Stamp} (h : stamp.time = stamp'.time) (r : Rule)
    (e : Event) (document : Json) (t : Tracker) :
    (Evaluation.raised (r.evaluate e document stamp t).1).map Alert.withoutId
        = (Evaluation.raised (r.evaluate e document stamp' t).1).map Alert.withoutId ∧
      (r.evaluate e document stamp t).2 = (r.evaluate e document stamp' t).2 := by
  obtain ⟨time, id⟩ := stamp
  obtain ⟨time', id'⟩ := stamp'
  obtain rfl : time = time' := h
  rcases evaluate_cases r e document ⟨time, id⟩ t with
    ⟨hmatch, heval⟩ | ⟨hmatch, ha, heval⟩ | ⟨a, hmatch, ha, hv, heval⟩ |
      ⟨a, v, hmatch, ha, hv, heval⟩
  · rw [heval, evaluate_of_not_isMatch hmatch]
    exact ⟨rfl, rfl⟩
  · rw [heval, evaluate_of_immediate hmatch ha]
    exact ⟨rfl, rfl⟩
  · rw [heval, evaluate_of_untracked hmatch ha hv]
    exact ⟨rfl, rfl⟩
  · rw [heval, evaluate_of_tracked hmatch ha hv]
    refine ⟨?_, rfl⟩
    simp only [Evaluation.raised, alertOf]
    split <;> rfl

theorem detectAll_of_time_eq {clock clock' : Nat → Stamp}
    (h : ∀ n, (clock n).time = (clock' n).time) (e : Event) (document : Json) (rules : List Rule)
    (t : Tracker) :
    (detectAll e document clock rules t).1.map Alert.withoutId
        = (detectAll e document clock' rules t).1.map Alert.withoutId ∧
      (detectAll e document clock rules t).2 = (detectAll e document clock' rules t).2 := by
  induction rules generalizing clock clock' t with
  | nil => exact ⟨rfl, rfl⟩
  | cons r rest ih =>
    obtain ⟨hraised, htracker⟩ := evaluate_of_time_eq (h 0) r e document t
    obtain ⟨halerts, htrackers⟩ := ih (fun n => h (n + 1)) (r.evaluate e document (clock' 0) t).2
    rw [detectAll_cons, detectAll_cons, htracker, htrackers]
    refine ⟨?_, rfl⟩
    rw [List.map_append, List.map_append, halerts, ← Option.toList_map, ← Option.toList_map,
      hraised]

end Rule

/-! ## Engines with one rule set -/

namespace Engine

/-- One event that reaches two engines, each rule being evaluated at one time in both. -/
structure Arrival.SameMoment {ω ω' : Type} (x : Arrival ω) (x' : Arrival ω') : Prop where
  event_eq : x.event = x'.event
  time_eq : ∀ n, (x.clock n).time = (x'.clock n).time

section

variable {τ ω τ' ω' : Type} [Target τ ω] [Target τ' ω']

/-- An event has the same alerts and leaves the same tracker, whatever the targets and the
    worlds. -/
theorem process_of_same_rules {en : Engine τ} {en' : Engine τ'}
    (hrules : en.ruleSet.rules = en'.ruleSet.rules) (htracker : en.tracker = en'.tracker)
    {clock clock' : Nat → Stamp} (htime : ∀ n, (clock n).time = (clock' n).time) (e : Event)
    (world : ω) (world' : ω') :
    (en.process clock e world).alerts.map Alert.withoutId
        = (en'.process clock' e world').alerts.map Alert.withoutId ∧
      (en.process clock e world).tracker = (en'.process clock' e world').tracker := by
  rw [alerts_process, alerts_process, tracker_process, tracker_process, hrules, htracker]
  exact Rule.detectAll_of_time_eq htime e e.document en'.ruleSet.rules en'.tracker

theorem processEach_cons (en : Engine τ) (world : ω) (x : Arrival ω) (rest : List (Arrival ω)) :
    en.processEach world (x :: rest)
      = let p := en.process x.clock x.event (x.meanwhile world)
        let others := ({ en with tracker := p.tracker } : Engine τ).processEach p.world rest
        (p.alerts :: others.1, others.2) :=
  rfl

/-- **Notification does not influence detection.** Two engines with the same rules and the same
    buckets, to which the same events come, raise the same alerts for each event, up to identifiers
    drawn at random, and are left with the same buckets: whatever targets they have, whether these
    succeed, fail or take too long, and however the worlds change around them. -/
theorem detection_without_targets {en : Engine τ} {en' : Engine τ'} {world : ω} {world' : ω'}
    {xs : List (Arrival ω)} {xs' : List (Arrival ω')}
    (hrules : en.ruleSet.rules = en'.ruleSet.rules) (htracker : en.tracker = en'.tracker)
    (hsame : List.Forall₂ Arrival.SameMoment xs xs') :
    (en.processEach world xs).1.map (·.map Alert.withoutId)
        = (en'.processEach world' xs').1.map (·.map Alert.withoutId) ∧
      (en.processEach world xs).2.1.tracker = (en'.processEach world' xs').2.1.tracker := by
  induction hsame generalizing en en' world world' with
  | nil => exact ⟨rfl, htracker⟩
  | @cons x x' rest rest' hmoment _ ih =>
    -- Both engines go on with one tracker, each in the world that its calls have left.
    let p := en.process x.clock x.event (x.meanwhile world)
    let p' := en'.process x'.clock x.event (x'.meanwhile world')
    obtain ⟨halerts, htrackers⟩ : p.alerts.map Alert.withoutId = p'.alerts.map Alert.withoutId ∧
        p.tracker = p'.tracker :=
      process_of_same_rules hrules htracker hmoment.time_eq x.event _ _
    obtain ⟨hothers, hlast⟩ := @ih { en with tracker := p.tracker }
      { en' with tracker := p'.tracker } p.world p'.world hrules htrackers
    rw [processEach_cons, processEach_cons, ← hmoment.event_eq]
    refine ⟨?_, hlast⟩
    rw [List.map_cons, List.map_cons, halerts, hothers]

end

/-- Two logins, once with targets of which one fails, one takes too long and one depends on an
    answer of the network, and once without targets and with other identifiers. -/
theorem detection_without_targets_of_logins :
    let rules := [loginRule "every" none,
      loginRule "counting" (some ⟨"actor.ip", 2, Binary64.ofNat 60⟩)]
    let targets : List (String × List Delivery.Notifier) :=
      [("every", [.rehearsal { name := "slow", delay := 60000 },
          .rehearsal { name := "broken", error := some .http }]),
        ("counting", [.slack "http://chat.example/", .console false])]
    let noisy : Engine Delivery.Notifier :=
      { ruleSet := ⟨rules, ⟨targets, 10000000000⟩⟩, retentionSecs := 3600 }
    let silent := engineOver rules
    let xs : List (Arrival Delivery.Surroundings) :=
      [{ clock := stampAt 0, event := loginFrom "10.0.0.9" },
        { clock := stampAt 1, event := loginFrom "10.0.0.9",
          meanwhile := fun s => { s with replies := [some .closed] } }]
    let xs' : List (Arrival Delivery.Surroundings) :=
      [{ clock := fun n => ⟨(stampAt 0 n).time, ⟨n + 100⟩⟩, event := loginFrom "10.0.0.9" },
        { clock := fun n => ⟨(stampAt 1 n).time, ⟨n + 200⟩⟩, event := loginFrom "10.0.0.9" }]
    ((noisy.processEach {} xs).1.map fun alerts => alerts.map (·.message))
        = [["every: login_failure by 10.0.0.9"], ["every: login_failure by 10.0.0.9",
            "counting: 2 occurrences from 10.0.0.9 in 60s"]] ∧
      List.Forall₂ Arrival.SameMoment xs xs' ∧
      (noisy.processEach {} xs).1.map (·.map Alert.withoutId)
        = (silent.processEach {} xs').1.map (·.map Alert.withoutId) ∧
      (noisy.processEach {} xs).2.1.tracker = (silent.processEach {} xs').2.1.tracker := by
  intro rules targets noisy silent xs xs'
  have hsame : List.Forall₂ Arrival.SameMoment xs xs' :=
    .cons ⟨rfl, fun _ => rfl⟩ (.cons ⟨rfl, fun _ => rfl⟩ .nil)
  exact ⟨by decide +kernel, hsame, detection_without_targets rfl rfl hsame⟩

end Engine

end Watchpost
