import Watchpost.Delivery.Notifier
import Watchpost.Proofs.Engine.Run

set_option autoImplicit false

/-! # Isolation of rules and grouping values

All rules and all grouping values share one tracker, and every event goes through all rules. Still
the alerts that a rule raises for a grouping value are those of an engine that holds this rule alone
and is fed only the events that concern the two: `Engine.alerts_isolated`. Both runs are brought to
one place of the tracker: `Rule.sight` is what an event does there, and `Engine.sightings` follows
the place through a run. -/

namespace Watchpost

open Delivery (Duration Fault Target)

namespace Alert

/-- An alert up to its identifier, which is drawn at random. -/
def withoutId (a : Alert) : Alert :=
  { a with id := default }

end Alert

namespace Rule

/-! ## One rule and one grouping value -/

/-- Where events of a rule with a grouping value are counted. -/
def key (r : Rule) (v : String) : Tracker.Key :=
  ⟨r.id, v⟩

/-- Whether an event has a grouping value of a rule. To a rule without aggregation they are all
    one. -/
def isAbout (r : Rule) (v : String) (e : Event) : Bool :=
  match r.aggregation with
  | none => true
  | some a => Path.groupingTextAt e.document a.field == some v

/-- Whether an event matches a rule and has a grouping value. -/
def concerns (r : Rule) (v : String) (e : Event) : Bool :=
  r.isMatch e.document && r.isAbout v e

/-- Whether an alert is one of a rule for a grouping value. -/
def hasRaised (r : Rule) (v : String) (a : Alert) : Bool :=
  a.ruleId == r.id && r.isAbout v a.event

/-- What a rule makes of an event in the place of a grouping value: the alert that it raises for the
    value, and what the place holds then. -/
def sight (r : Rule) (v : String) (e : Event) (stamp : Stamp) (slot : Option Tracker.Bucket) :
    Option Alert × Option Tracker.Bucket :=
  if r.concerns v e then
    match r.aggregation with
    | none => (some (r.immediateAlert e stamp), slot)
    | some a =>
      let (outcome, b) := Tracker.trackPlace slot a stamp.time
      (r.alertOf a v e stamp outcome, some b)
  else (none, slot)

theorem sight_of_not_concerns {r : Rule} {v : String} {e : Event} (h : r.concerns v e = false)
    (stamp : Stamp) (slot : Option Tracker.Bucket) : r.sight v e stamp slot = (none, slot) := by
  simp [sight, h]

/-- Evaluating a rule against an event that concerns it sights the event. -/
theorem evaluate_of_concerns {r : Rule} {v : String} {e : Event} (h : r.concerns v e = true)
    (stamp : Stamp) (t : Tracker) :
    Evaluation.raised (r.evaluate e e.document stamp t).1
        = (r.sight v e stamp (t.find? (r.key v))).1 ∧
      (r.evaluate e e.document stamp t).2.find? (r.key v)
        = (r.sight v e stamp (t.find? (r.key v))).2 := by
  have hconcerns := h
  simp only [concerns, Bool.and_eq_true] at hconcerns
  obtain ⟨hmatch, habout⟩ := hconcerns
  cases ha : r.aggregation with
  | none =>
    rw [evaluate_of_immediate hmatch ha]
    simp only [sight, h, ha, if_true, Evaluation.raised, and_self]
  | some a =>
    have hv : Path.groupingTextAt e.document a.field = some v := by
      simpa only [isAbout, ha, beq_iff_eq] using habout
    rw [evaluate_of_tracked hmatch ha hv]
    simp only [sight, h, ha, if_true, Evaluation.raised, key, Tracker.find?_trackKey,
      Tracker.trackKey_fst, and_self]

/-- An event that does not concern a rule and a grouping value leaves their place alone. -/
theorem find?_evaluate_of_not_concerns {r : Rule} {v : String} {e : Event}
    (h : r.concerns v e = false) (stamp : Stamp) (t : Tracker) :
    (r.evaluate e e.document stamp t).2.find? (r.key v) = t.find? (r.key v) := by
  apply find?_evaluate_of_ne
  intro hmatch a ha hkey
  obtain ⟨w, hw, he⟩ := Option.map_eq_some_iff.1 hkey
  obtain rfl : w = v := congrArg Tracker.Key.value he
  simp [concerns, isAbout, hmatch, ha, hw] at h

/-- A rule raises no alert of another rule and leaves its places alone. -/
theorem evaluate_of_id_ne {r s : Rule} (h : r.id ≠ s.id) (v : String) (e : Event) (stamp : Stamp)
    (t : Tracker) :
    (Evaluation.raised (s.evaluate e e.document stamp t).1).toList.filter (r.hasRaised v) = [] ∧
      (s.evaluate e e.document stamp t).2.find? (r.key v) = t.find? (r.key v) := by
  constructor
  · rw [List.filter_eq_nil_iff]
    intro alert hraised
    obtain ⟨-, hrule, -⟩ := of_raised (Option.mem_toList.1 hraised)
    have hother : (alert.ruleId == r.id) = false := by
      rw [hrule]
      exact beq_eq_false_iff_ne.2 (Ne.symm h)
    simp [hasRaised, hother]
  · apply find?_evaluate_of_ne
    intro _ a _ hkey
    obtain ⟨w, -, he⟩ := Option.map_eq_some_iff.1 hkey
    exact h (congrArg Tracker.Key.ruleId he).symm

/-- An alert is one for a grouping value just if its event concerns the value. -/
theorem hasRaised_of_raised {r : Rule} {e : Event} {stamp : Stamp} {t : Tracker} {alert : Alert}
    (h : Evaluation.raised (r.evaluate e e.document stamp t).1 = some alert) (v : String) :
    r.hasRaised v alert = r.concerns v e := by
  obtain ⟨hmatch, hrule, hevent⟩ := of_raised h
  simp only [hasRaised, concerns, hmatch, hrule, hevent, beq_self_eq_true]

/-- Whatever event a rule is evaluated against, in the place of a grouping value it is sighted. -/
theorem evaluate_eq_sight (r : Rule) (v : String) (e : Event) (stamp : Stamp) (t : Tracker) :
    (Evaluation.raised (r.evaluate e e.document stamp t).1).toList.filter (r.hasRaised v)
        = (r.sight v e stamp (t.find? (r.key v))).1.toList ∧
      (r.evaluate e e.document stamp t).2.find? (r.key v)
        = (r.sight v e stamp (t.find? (r.key v))).2 := by
  cases h : r.concerns v e with
  | true =>
    obtain ⟨halert, hplace⟩ := evaluate_of_concerns h stamp t
    refine ⟨?_, hplace⟩
    rw [← halert, List.filter_eq_self]
    intro alert hraised
    rw [hasRaised_of_raised (Option.mem_toList.1 hraised), h]
  | false =>
    rw [sight_of_not_concerns h]
    refine ⟨?_, find?_evaluate_of_not_concerns h stamp t⟩
    rw [Option.toList_none, List.filter_eq_nil_iff]
    intro alert hraised
    rw [hasRaised_of_raised (Option.mem_toList.1 hraised), h]
    exact Bool.false_ne_true

/-! ## All rules -/

/-- Rules with a given one among them, of which no two have one identifier. -/
structure Holds (r : Rule) (rules : List Rule) : Prop where
  mem : r ∈ rules
  nodup : (rules.map Rule.id).Nodup

/-- Where a rule stands among others. -/
def position (r : Rule) (rules : List Rule) : Nat :=
  rules.findIdx fun s => s.id == r.id

/-- Rules with other identifiers raise no alert of a rule and leave its places alone. -/
theorem detectAll_of_not_mem {r : Rule} {rules : List Rule} (h : r.id ∉ rules.map Rule.id)
    (v : String) (e : Event) (clock : Nat → Stamp) (t : Tracker) :
    (detectAll e e.document clock rules t).1.filter (r.hasRaised v) = [] ∧
      (detectAll e e.document clock rules t).2.find? (r.key v) = t.find? (r.key v) := by
  induction rules generalizing clock t with
  | nil => exact ⟨rfl, rfl⟩
  | cons s rest ih =>
    simp only [List.map_cons, List.mem_cons, not_or] at h
    obtain ⟨hne, hrest⟩ := h
    obtain ⟨hfirst, hplace⟩ := evaluate_of_id_ne hne v e (clock 0) t
    obtain ⟨hothers, hplaces⟩ := ih hrest (fun n => clock (n + 1))
      (s.evaluate e e.document (clock 0) t).2
    rw [detectAll_cons]
    constructor
    · rw [List.filter_append, hfirst, hothers, List.append_nil]
    · rw [hplaces, hplace]

/-- Among other rules, a rule sights an event as it does alone. -/
theorem detectAll_eq_sight {r : Rule} {rules : List Rule} (h : r.Holds rules) (v : String)
    (e : Event) (clock : Nat → Stamp) (t : Tracker) :
    (detectAll e e.document clock rules t).1.filter (r.hasRaised v)
        = (r.sight v e (clock (r.position rules)) (t.find? (r.key v))).1.toList ∧
      (detectAll e e.document clock rules t).2.find? (r.key v)
        = (r.sight v e (clock (r.position rules)) (t.find? (r.key v))).2 := by
  induction rules generalizing clock t with
  | nil => exact absurd h.mem List.not_mem_nil
  | cons s rest ih =>
    have hnodup := h.nodup
    rw [List.map_cons, List.nodup_cons] at hnodup
    rw [detectAll_cons, List.filter_append]
    rcases List.mem_cons.1 h.mem with rfl | hmem
    · -- The rules after it are other rules.
      obtain ⟨hothers, hplaces⟩ := detectAll_of_not_mem hnodup.1 v e (fun n => clock (n + 1))
        (r.evaluate e e.document (clock 0) t).2
      have hposition : r.position (r :: rest) = 0 := by
        rw [position, List.findIdx_cons, beq_self_eq_true, cond_true]
      rw [hothers, List.append_nil, hplaces, hposition]
      exact evaluate_eq_sight r v e (clock 0) t
    · -- The first rule is another rule.
      have hne : r.id ≠ s.id := fun he => hnodup.1 (he ▸ List.mem_map_of_mem hmem)
      obtain ⟨hfirst, hplace⟩ := evaluate_of_id_ne hne v e (clock 0) t
      have hposition : r.position (s :: rest) = r.position rest + 1 := by
        rw [position, List.findIdx_cons, beq_eq_false_iff_ne.2 (Ne.symm hne), cond_false, position]
      rw [hfirst, List.nil_append, hposition, ← hplace]
      exact ih ⟨hmem, hnodup.2⟩ (fun n => clock (n + 1)) _

theorem hasUniqueKeys_detectAll {t : Tracker} (h : t.HasUniqueKeys) (e : Event) (document : Json)
    (clock : Nat → Stamp) (rules : List Rule) :
    (detectAll e document clock rules t).2.HasUniqueKeys := by
  induction rules generalizing clock t with
  | nil => exact h
  | cons s rest ih => exact ih (hasUniqueKeys_evaluate h s e document (clock 0)) _

/-- The identifier that an alert takes does not show in what is sighted. -/
theorem sight_withoutId (r : Rule) (v : String) (e : Event) (stamp : Stamp) (id : Uuid)
    (slot : Option Tracker.Bucket) :
    (r.sight v e ⟨stamp.time, id⟩ slot).1.toList.map Alert.withoutId
        = (r.sight v e stamp slot).1.toList.map Alert.withoutId ∧
      (r.sight v e ⟨stamp.time, id⟩ slot).2 = (r.sight v e stamp slot).2 := by
  unfold sight
  split
  · split
    · exact ⟨rfl, rfl⟩
    · refine ⟨?_, rfl⟩
      simp only [alertOf]
      split <;> rfl
  · exact ⟨rfl, rfl⟩

end Rule

/-! ## Runs -/

namespace Engine

/-- The alerts that a rule raises for a grouping value in a run, from the place of the two. -/
def sightings (r : Rule) (v : String) :
    Option Tracker.Bucket → List Rule → List Step → List Alert
  | _, _, [] => []
  | slot, rules, .process clock e :: rest =>
    let (alert, slot) := r.sight v e (clock (r.position rules)) slot
    alert.toList ++ sightings r v slot rules rest
  | slot, _, .reload rules :: rest => sightings r v slot rules rest
  | slot, rules, .sweep now retention :: rest =>
    sightings r v (slot.filter (·.isKept now retention)) rules rest

theorem sightings_process (r : Rule) (v : String) (slot : Option Tracker.Bucket)
    (rules : List Rule) (clock : Nat → Stamp) (e : Event) (rest : List Step) :
    sightings r v slot rules (.process clock e :: rest)
      = (r.sight v e (clock (r.position rules)) slot).1.toList
          ++ sightings r v (r.sight v e (clock (r.position rules)) slot).2 rules rest :=
  rfl

/-- Every rule set that is put in place holds a rule. -/
def KeepsHolding (r : Rule) (steps : List Step) : Prop :=
  ∀ rules, Step.reload rules ∈ steps → r.Holds rules

theorem KeepsHolding.tail {r : Rule} {s : Step} {rest : List Step}
    (h : KeepsHolding r (s :: rest)) : KeepsHolding r rest :=
  fun rules hmem => h rules (List.mem_cons_of_mem s hmem)

/-- The alerts of a rule for a grouping value come from one place of the tracker. -/
theorem filter_detections {r : Rule} {rules : List Rule} {steps : List Step} {t : Tracker}
    (hrules : r.Holds rules) (hsteps : KeepsHolding r steps) (ht : t.HasUniqueKeys) (v : String) :
    (detections rules t steps).filter (r.hasRaised v)
      = sightings r v (t.find? (r.key v)) rules steps := by
  -- Both follow the place under `r.key v`; a reload moves the rule but keeps the tracker.
  induction steps generalizing rules t with
  | nil => rfl
  | cons s rest ih =>
    cases s with
    | process clock e =>
      obtain ⟨halert, hplace⟩ := Rule.detectAll_eq_sight hrules v e clock t
      rw [detections_process, sightings_process, List.filter_append, halert,
        ih hrules hsteps.tail (Rule.hasUniqueKeys_detectAll ht e e.document clock rules), hplace]
    | reload rules' => exact ih (hsteps rules' List.mem_cons_self) hsteps.tail ht
    | sweep now retention =>
      have hplace := Tracker.find?_sweep ht now retention (r.key v)
      rw [sightings, ← hplace]
      exact ih hrules hsteps.tail (ht.sweep now retention)

/-- What is left of a run for an engine that holds a rule alone and is fed only the events that
    concern the rule and a grouping value: these events, each at the instant at which the rule was
    evaluated, and the sweeps. Its alerts take the identifiers `ids`. -/
def alone (r : Rule) (v : String) : (Nat → Uuid) → List Rule → List Step → List Step
  | _, _, [] => []
  | ids, rules, .process clock e :: rest =>
    if r.concerns v e then
      .process (fun _ => ⟨(clock (r.position rules)).time, ids 0⟩) e ::
        alone r v (fun n => ids (n + 1)) rules rest
    else alone r v ids rules rest
  | ids, _, .reload rules :: rest => alone r v ids rules rest
  | ids, rules, .sweep now retention :: rest => .sweep now retention :: alone r v ids rules rest

/-- An engine with one rule that is fed only events that concern it raises what is sighted in the
    place of the two. -/
theorem detections_alone (r : Rule) (v : String) (ids : Nat → Uuid) (rules : List Rule)
    (steps : List Step) {t : Tracker} (ht : t.HasUniqueKeys) :
    (detections [r] t (alone r v ids rules steps)).map Alert.withoutId
      = (sightings r v (t.find? (r.key v)) rules steps).map Alert.withoutId := by
  -- An event that is left out leaves the place as it is, and so do the rule sets.
  induction steps generalizing ids rules t with
  | nil => rfl
  | cons s rest ih =>
    cases s with
    | process clock e =>
      rw [alone, sightings_process]
      cases h : r.concerns v e with
      | true =>
        have ⟨halert, hplace⟩ :=
          Rule.evaluate_of_concerns h ⟨(clock (r.position rules)).time, ids 0⟩ t
        have ⟨halert', hplace'⟩ := Rule.sight_withoutId r v e (clock (r.position rules)) (ids 0)
          (t.find? (r.key v))
        rw [if_pos rfl, detections_process, Rule.detectAll_singleton]
        simp only [List.map_append]
        rw [halert, halert',
          ih (fun n => ids (n + 1)) rules (Rule.hasUniqueKeys_evaluate ht r e e.document _),
          hplace, hplace']
      | false =>
        rw [if_neg Bool.false_ne_true, Rule.sight_of_not_concerns h]
        exact ih ids rules ht
    | reload rules' => exact ih ids rules' ht
    | sweep now retention =>
      have hplace := Tracker.find?_sweep ht now retention (r.key v)
      rw [sightings, ← hplace]
      exact ih ids rules (ht.sweep now retention)

/-- **Rules and grouping values are isolated.** The alerts that a rule raises for a grouping value
    do not depend on other rules, on other values, on rule sets that are put in place or on the
    targets of any rule. -/
theorem alerts_isolated {τ ω τ' ω' : Type} [Target τ ω] [Target τ' ω']
    {build : ChannelConfig → Except Fault τ} {build' : ChannelConfig → Except Fault τ'}
    {limit limit' : Duration} {en : Engine τ} {single : Engine τ'} {world : ω} {world' : ω'}
    {r : Rule} {steps : List Step} (hrules : r.Holds en.ruleSet.rules)
    (hsteps : KeepsHolding r steps) (hempty : en.tracker = Tracker.empty)
    (hsingle : single.ruleSet.rules = [r]) (hempty' : single.tracker = Tracker.empty)
    (v : String) (ids : Nat → Uuid) :
    ((en.alerts build limit world steps).filter (r.hasRaised v)).map Alert.withoutId
      = (single.alerts build' limit' world'
          (alone r v ids en.ruleSet.rules steps)).map Alert.withoutId := by
  rw [alerts_eq_detections, alerts_eq_detections, hempty, hempty', hsingle,
    filter_detections hrules hsteps Tracker.hasUniqueKeys_empty,
    detections_alone r v ids en.ruleSet.rules steps Tracker.hasUniqueKeys_empty]

/-- A failed login from an address. -/
def loginFrom (ip : String) : Event :=
  { id := "evt", timestamp := ⟨1750000000, 0⟩, ingestedAt := none, kind := .authentication,
    action := "login_failure", severity := .medium, categories := [], source := none,
    actor := some ⟨none, none, some ip, none⟩, target := none, outcome := .failure, metadata := [],
    provenance := none }

/-- A rule about failed logins. -/
def loginRule (id : String) (aggregation : Option Rule.Aggregation) : Rule :=
  { id, name := id, description := none, enabled := true, severity := .high,
    conditions := ⟨none, some (.one "login_failure"), [], aggregation⟩, actions := [] }

/-- An engine over rules, whose targets are those of the program. -/
def engineOver (rules : List Rule) : Engine Delivery.Notifier :=
  (start (Delivery.Notifier.build Environment.empty false) 10000000000 3600 rules).1

/-- Stamps some seconds after an instant, told apart by a number. -/
def stampAt (seconds : Int) (n : Nat) : Stamp :=
  ⟨⟨1750000000 + seconds, 0⟩, ⟨n⟩⟩

/-- Two logins from one address raise an alert. Between them come a login from another address, a
    sweep and a reload that puts the rules in another order. -/
theorem alerts_isolated_of_logins :
    let counting := loginRule "counting" (some ⟨"actor.ip", 2, Binary64.ofNat 60⟩)
    let every := loginRule "every" none
    let build := Delivery.Notifier.build Environment.empty false
    let steps : List Step :=
      [.process (stampAt 0) (loginFrom "10.0.0.9"), .process (stampAt 1) (loginFrom "10.0.0.7"),
        .sweep ⟨1750000002, 0⟩ 3600000000000, .reload [counting, every],
        .process (stampAt 3) (loginFrom "10.0.0.9")]
    let raised := ((engineOver [every, counting]).alerts build 0 ({} : Delivery.Surroundings)
      steps).filter (counting.hasRaised "10.0.0.9")
    raised.map (·.message) = ["counting: 2 occurrences from 10.0.0.9 in 60s"] ∧
      raised.map Alert.withoutId
        = ((engineOver [counting]).alerts build 0 ({} : Delivery.Surroundings)
            (alone counting "10.0.0.9" Uuid.mk [every, counting] steps)).map Alert.withoutId := by
  intro counting every build steps raised
  have hrules : counting.Holds [every, counting] :=
    ⟨List.mem_cons_of_mem every List.mem_cons_self, by decide⟩
  have hsteps : KeepsHolding counting steps := by
    intro rules hmem
    simp only [steps, List.mem_cons, reduceCtorEq, Step.reload.injEq, List.not_mem_nil,
      false_or, or_false] at hmem
    rw [hmem]
    exact ⟨List.mem_cons_self, by decide⟩
  exact ⟨by decide +kernel, alerts_isolated hrules hsteps rfl rfl rfl "10.0.0.9" Uuid.mk⟩

end Engine

end Watchpost
