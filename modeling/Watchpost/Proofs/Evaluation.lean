import Watchpost.Evaluation
import Watchpost.Proofs.Tracker.Store

set_option autoImplicit false

/-! # Cases of an evaluation

An evaluation of a rule comes to one of four things: the document does not match, the rule has no
aggregation and raises an alert at once, the event has no grouping value, or it is tracked. Each has
its equation here, so that later proofs need not open `Rule.evaluate`. `Rule.Evaluated` is what they
have in common, and `Rule.evaluate_eq_ok` says that every evaluation comes to that. -/

namespace Watchpost

/-- The alert that comes of an evaluation. -/
def Evaluation.raised : Except Evaluation.Error Evaluation → Option Alert
  | .ok ⟨alert, _⟩ => alert
  | .error _ => none

namespace Rule

/-- The alert of an aggregated rule after an event with grouping value `v` has been tracked. -/
def alertOf (r : Rule) (a : Aggregation) (v : String) (e : Event) (stamp : Stamp)
    (outcome : Tracker.Outcome) : Option Alert :=
  if outcome.triggered then some (r.alert e stamp (aggregatedMessage r.name outcome.count v a))
  else none

variable {r : Rule} {a : Aggregation} {document : Json} {v : String}

theorem evaluate_of_not_isMatch (h : r.isMatch document = false) (e : Event) (stamp : Stamp)
    (t : Tracker) : r.evaluate e document stamp t = (.ok ⟨none, none⟩, t) := by
  simp [evaluate, h]

theorem evaluate_of_immediate (h : r.isMatch document = true) (ha : r.aggregation = none)
    (e : Event) (stamp : Stamp) (t : Tracker) :
    r.evaluate e document stamp t = (.ok ⟨some (r.immediateAlert e stamp), none⟩, t) := by
  simp [evaluate, h, ha]

theorem evaluate_of_untracked (h : r.isMatch document = true) (ha : r.aggregation = some a)
    (hv : Path.groupingTextAt document a.field = none) (e : Event) (stamp : Stamp) (t : Tracker) :
    r.evaluate e document stamp t = (.ok ⟨none, some 0⟩, t) := by
  simp [evaluate, h, ha, Tracker.track, hv, Tracker.Outcome.untracked]

/-- An event with a grouping value is tracked, and an alert names the value that was counted. -/
theorem evaluate_of_tracked (h : r.isMatch document = true) (ha : r.aggregation = some a)
    (hv : Path.groupingTextAt document a.field = some v) (e : Event) (stamp : Stamp)
    (t : Tracker) :
    r.evaluate e document stamp t
      = (.ok ⟨r.alertOf a v e stamp (t.trackKey ⟨r.id, v⟩ a stamp.time).1,
            some (t.trackKey ⟨r.id, v⟩ a stamp.time).1.count⟩,
          (t.trackKey ⟨r.id, v⟩ a stamp.time).2) := by
  have htrack : t.track r.id document a stamp.time = t.trackKey ⟨r.id, v⟩ a stamp.time := by
    simp only [Tracker.track, hv]
  simp only [evaluate, h, ha, htrack, if_true, alertOf, aggregatedAlert, hv, Option.getD_some]
  split <;> rfl

/-- All that an evaluation can come to. -/
theorem evaluate_cases (r : Rule) (e : Event) (document : Json) (stamp : Stamp) (t : Tracker) :
    (r.isMatch document = false ∧ r.evaluate e document stamp t = (.ok ⟨none, none⟩, t)) ∨
      (r.isMatch document = true ∧ r.aggregation = none ∧
        r.evaluate e document stamp t = (.ok ⟨some (r.immediateAlert e stamp), none⟩, t)) ∨
      (∃ a, r.isMatch document = true ∧ r.aggregation = some a ∧
        Path.groupingTextAt document a.field = none ∧
        r.evaluate e document stamp t = (.ok ⟨none, some 0⟩, t)) ∨
      ∃ a v, r.isMatch document = true ∧ r.aggregation = some a ∧
        Path.groupingTextAt document a.field = some v ∧
        r.evaluate e document stamp t
          = (.ok ⟨r.alertOf a v e stamp (t.trackKey ⟨r.id, v⟩ a stamp.time).1,
                some (t.trackKey ⟨r.id, v⟩ a stamp.time).1.count⟩,
              (t.trackKey ⟨r.id, v⟩ a stamp.time).2) := by
  cases hmatch : r.isMatch document with
  | false => exact Or.inl ⟨rfl, evaluate_of_not_isMatch hmatch e stamp t⟩
  | true =>
    refine Or.inr ?_
    cases ha : r.aggregation with
    | none => exact Or.inl ⟨rfl, rfl, evaluate_of_immediate hmatch ha e stamp t⟩
    | some a =>
      refine Or.inr ?_
      cases hv : Path.groupingTextAt document a.field with
      | none => exact Or.inl ⟨a, rfl, rfl, hv, evaluate_of_untracked hmatch ha hv e stamp t⟩
      | some v => exact Or.inr ⟨a, v, rfl, rfl, hv, evaluate_of_tracked hmatch ha hv e stamp t⟩

/-- An alert is about a rule that matches, and about the event that set it off. -/
theorem of_raised {e : Event} {stamp : Stamp} {t : Tracker} {alert : Alert}
    (h : Evaluation.raised (r.evaluate e document stamp t).1 = some alert) :
    r.isMatch document = true ∧ alert.ruleId = r.id ∧ alert.event = e := by
  rcases evaluate_cases r e document stamp t with
    ⟨-, heval⟩ | ⟨hmatch, -, heval⟩ | ⟨a, -, -, -, heval⟩ | ⟨a, v, hmatch, -, -, heval⟩
  · simp [heval, Evaluation.raised] at h
  · rw [heval] at h
    obtain rfl := Option.some.inj h
    exact ⟨hmatch, rfl, rfl⟩
  · simp [heval, Evaluation.raised] at h
  · simp only [heval, Evaluation.raised, alertOf] at h
    split at h
    · obtain rfl := Option.some.inj h
      exact ⟨hmatch, rfl, rfl⟩
    · simp at h

/-- An evaluation changes at most the place of the event's grouping value. -/
theorem find?_evaluate_of_ne {e : Event} {stamp : Stamp} {t : Tracker} {k : Tracker.Key}
    (h : r.isMatch document = true → ∀ a, r.aggregation = some a →
      (Path.groupingTextAt document a.field).map (Tracker.Key.mk r.id) ≠ some k) :
    (r.evaluate e document stamp t).2.find? k = t.find? k := by
  rcases evaluate_cases r e document stamp t with
    ⟨-, heval⟩ | ⟨-, -, heval⟩ | ⟨a, -, -, -, heval⟩ | ⟨a, v, hmatch, ha, hv, heval⟩
  · rw [heval]
  · rw [heval]
  · rw [heval]
  · have hne : k ≠ ⟨r.id, v⟩ := fun he => h hmatch a ha (by rw [hv, Option.map_some, he])
    rw [heval, Tracker.find?_trackKey, if_neg hne]

/-- An evaluation keeps one bucket for each key. -/
theorem hasUniqueKeys_evaluate {t : Tracker} (h : t.HasUniqueKeys) (r : Rule) (e : Event)
    (document : Json) (stamp : Stamp) : (r.evaluate e document stamp t).2.HasUniqueKeys := by
  rcases evaluate_cases r e document stamp t with
    ⟨-, heval⟩ | ⟨-, -, heval⟩ | ⟨a, -, -, -, heval⟩ | ⟨a, v, -, -, -, heval⟩
  · rw [heval]
    exact h
  · rw [heval]
    exact h
  · rw [heval]
    exact h
  · rw [heval]
    exact h.trackKey ⟨r.id, v⟩ a stamp.time

/-! ## An evaluation end to end -/

/-- What it is for a rule to have been evaluated against an event and its document: what comes of
    it is `evaluation`, and it leaves the tracker `after` in place of `t`. -/
structure Evaluated (r : Rule) (e : Event) (document : Json) (stamp : Stamp) (t : Tracker)
    (evaluation : Evaluation) (after : Tracker) : Prop where
  /-- There is an alert if the rule matches and does not count, or what it counts triggers. -/
  raises_iff : evaluation.alert.isSome = true ↔
    r.isMatch document = true ∧
      (r.aggregation = none ∨
        ∃ a, r.aggregation = some a ∧ (t.track r.id document a stamp.time).1.triggered = true)
  /-- The message of an alert that one event raises. -/
  immediate : ∀ alert, r.aggregation = none → evaluation.alert = some alert →
    alert = r.alert e stamp (r.name ++ ": " ++ e.action ++ " by " ++ e.actorLabel)
  /-- The message of an alert that a number of events raises has the count with which the bucket
      triggered, and the value of the key under which the event was counted. -/
  aggregated : ∀ a alert, r.aggregation = some a → evaluation.alert = some alert →
    ∃ v count, Path.groupingTextAt document a.field = some v ∧
      t.trackKey ⟨r.id, v⟩ a stamp.time = (⟨true, count⟩, after) ∧
      evaluation.count = some count ∧
      alert = r.alert e stamp (r.name ++ ": " ++ count.repr ++ " occurrences from " ++ v ++
        " in " ++ a.windowLabel ++ "s")
  /-- The buckets stay as they are unless an event is counted. -/
  unchanged : (r.isMatch document = false ∨ r.aggregation = none ∨
    ∃ a, r.aggregation = some a ∧ Path.groupingTextAt document a.field = none) → after = t
  /-- Where an event is counted, the buckets of all other keys stay as they are. -/
  frame : ∀ a v, r.isMatch document = true → r.aggregation = some a →
    Path.groupingTextAt document a.field = some v →
    after = (t.trackKey ⟨r.id, v⟩ a stamp.time).2 ∧ after.others ⟨r.id, v⟩ = t.others ⟨r.id, v⟩

theorem Evaluated.of_not_isMatch (h : r.isMatch document = false) (e : Event) (stamp : Stamp)
    (t : Tracker) : r.Evaluated e document stamp t ⟨none, none⟩ t where
  raises_iff := by simp [h]
  immediate := by simp
  aggregated := by simp
  unchanged := fun _ => rfl
  frame := by simp [h]

theorem Evaluated.of_immediate (h : r.isMatch document = true) (ha : r.aggregation = none)
    (e : Event) (stamp : Stamp) (t : Tracker) :
    r.Evaluated e document stamp t ⟨some (r.immediateAlert e stamp), none⟩ t where
  raises_iff := by simp [h, ha]
  immediate := by
    intro alert _ halert
    exact (Option.some.inj halert).symm
  aggregated := by simp [ha]
  unchanged := fun _ => rfl
  frame := by simp [ha]

theorem Evaluated.of_untracked (ha : r.aggregation = some a)
    (hv : Path.groupingTextAt document a.field = none) (e : Event) (stamp : Stamp) (t : Tracker) :
    r.Evaluated e document stamp t ⟨none, some 0⟩ t where
  raises_iff := by simp [ha, Tracker.track, hv, Tracker.Outcome.untracked]
  immediate := by simp
  aggregated := by simp
  unchanged := fun _ => rfl
  frame := by
    intro a' v _ ha' hv'
    obtain rfl : a = a' := Option.some.inj (ha.symm.trans ha')
    rw [hv] at hv'
    exact absurd hv' (by simp)

theorem Evaluated.of_tracked (h : r.isMatch document = true) (ha : r.aggregation = some a)
    (hv : Path.groupingTextAt document a.field = some v) (e : Event) (stamp : Stamp)
    (t : Tracker) :
    r.Evaluated e document stamp t
      ⟨r.alertOf a v e stamp (t.trackKey ⟨r.id, v⟩ a stamp.time).1,
        some (t.trackKey ⟨r.id, v⟩ a stamp.time).1.count⟩
      (t.trackKey ⟨r.id, v⟩ a stamp.time).2 where
  raises_iff := by
    have htrack : t.track r.id document a stamp.time = t.trackKey ⟨r.id, v⟩ a stamp.time := by
      simp only [Tracker.track, hv]
    simp [h, ha, htrack, alertOf]
  immediate := by simp [ha]
  aggregated := by
    intro a' alert ha' halert
    obtain rfl : a = a' := Option.some.inj (ha.symm.trans ha')
    -- The look-up for the message is that for the key: both give `v`.
    rw [alertOf] at halert
    split at halert
    · next htriggered =>
      refine ⟨v, (t.trackKey ⟨r.id, v⟩ a stamp.time).1.count, hv, ?_, rfl,
        (Option.some.inj halert).symm⟩
      rw [← htriggered]
    · exact absurd halert (by simp)
  unchanged := by simp [h, ha, hv]
  frame := by
    intro a' v' _ ha' hv'
    obtain rfl : a = a' := Option.some.inj (ha.symm.trans ha')
    obtain rfl : v = v' := Option.some.inj (hv.symm.trans hv')
    exact ⟨rfl, Tracker.others_trackKey t ⟨r.id, v⟩ a stamp.time⟩

/-- **An evaluation never fails.** It raises an alert exactly if the rule matches and either does
    not count or triggers; the alert names what was counted, and no bucket but the one that was
    counted in is changed. -/
theorem evaluate_eq_ok (r : Rule) (e : Event) (document : Json) (stamp : Stamp) (t : Tracker) :
    ∃ evaluation after, r.evaluate e document stamp t = (.ok evaluation, after) ∧
      r.Evaluated e document stamp t evaluation after := by
  rcases evaluate_cases r e document stamp t with
    ⟨hmatch, heval⟩ | ⟨hmatch, ha, heval⟩ | ⟨a, -, ha, hv, heval⟩ | ⟨a, v, hmatch, ha, hv, heval⟩
  · exact ⟨_, _, heval, .of_not_isMatch hmatch e stamp t⟩
  · exact ⟨_, _, heval, .of_immediate hmatch ha e stamp t⟩
  · exact ⟨_, _, heval, .of_untracked ha hv e stamp t⟩
  · exact ⟨_, _, heval, .of_tracked hmatch ha hv e stamp t⟩

end Rule

end Watchpost
