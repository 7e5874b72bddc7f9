import Mathlib.Data.List.TakeWhile
import Watchpost.Proofs.Number.Rounding
import Watchpost.Proofs.RuleFile

set_option autoImplicit false

/-! # Which rule files are used

A rule is sound if it has an identifier, its conditions have fields, and its aggregation, if it has
one, groups by a field and waits for at least one event within a positive time. Checking a rule
finds a fault exactly if the rule is not sound, and what the fault says is true of the rule. A rule
file is used exactly if its enabled rules are sound and have different identifiers; otherwise the
first of them that is not sound, or repeats an identifier, is to blame: `RuleFile.judges_ofText`. -/

namespace Watchpost

/-! ## Blank texts -/

theorem Text.trim_eq_nil_iff (cs : List Char) :
    Text.trim cs = [] ↔ ∀ c ∈ cs, Text.isBlank c = true := by
  rw [Text.trim, Text.trimEnd, Text.dropEndWhile, List.reverse_eq_nil_iff,
    List.dropWhile_eq_nil_iff, Text.trimStart]
  constructor
  · intro h
    -- What is left at the start would begin with a character that is no blank.
    apply List.dropWhile_eq_nil_iff.1
    cases hrest : cs.dropWhile Text.isBlank with
    | nil => rfl
    | cons c rest =>
      have hfirst := List.head?_dropWhile_not Text.isBlank cs
      have hblank := h c (by simp [hrest])
      rw [hrest] at hfirst
      exact absurd hblank (by simpa using hfirst)
  · intro h c hc
    exact h c ((List.dropWhile_sublist _).subset (List.mem_reverse.1 hc))

theorem Text.isAllBlank_iff (s : String) : Text.isAllBlank s = true ↔ Text.trimmed s = "" := by
  rw [Text.isAllBlank, Text.trimmed, List.all_eq_true, ← Text.trim_eq_nil_iff, ← String.toList_inj,
    String.toList_ofList, String.toList_empty]

/-! ## Sound rules -/

namespace Rule

/-- An aggregation that counts something, up to a number, within some time. -/
structure Aggregation.IsSound (a : Aggregation) : Prop where
  grouped : a.field ≠ ""
  threshold_pos : 1 ≤ a.threshold
  window_finite : a.windowSeconds.isFinite = true
  window_pos : 0 < a.windowSeconds.scaled

/-- A rule that can be used. -/
structure IsSound (r : Rule) : Prop where
  identified : Text.trimmed r.id ≠ ""
  fields_named : ∀ c ∈ r.conditions.fields, c.field ≠ ""
  aggregation_sound : ∀ a ∈ r.aggregation, a.IsSound

/-- What a fault says is true of a rule. -/
inductive HasFault (r : Rule) : Fault → Prop
  | emptyId (h : Text.trimmed r.id = "") : HasFault r .emptyId
  | emptyField {c : Condition} (hc : c ∈ r.conditions.fields) (h : c.field = "") :
      HasFault r (.emptyField r.id)
  | emptyGroupingField {a : Aggregation} (ha : a ∈ r.aggregation) (h : a.field = "") :
      HasFault r (.emptyGroupingField r.id)
  | zeroThreshold {a : Aggregation} (ha : a ∈ r.aggregation) (h : a.threshold = 0) :
      HasFault r (.zeroThreshold r.id)
  | badWindow {a : Aggregation} (ha : a ∈ r.aggregation)
      (h : a.windowSeconds.isFinite = false ∨ a.windowSeconds.scaled ≤ 0) :
      HasFault r (.badWindow r.id)

theorem HasFault.not_isSound {r : Rule} {fault : Fault} (h : r.HasFault fault) : ¬ r.IsSound := by
  intro hsound
  cases h with
  | emptyId h => exact hsound.identified h
  | emptyField hc h => exact hsound.fields_named _ hc h
  | emptyGroupingField ha h => exact (hsound.aggregation_sound _ ha).grouped h
  | zeroThreshold ha h =>
    have hpos := (hsound.aggregation_sound _ ha).threshold_pos
    omega
  | badWindow ha h =>
    have hfinite := (hsound.aggregation_sound _ ha).window_finite
    have hpos := (hsound.aggregation_sound _ ha).window_pos
    rcases h with h | h
    · rw [h] at hfinite
      cases hfinite
    · omega

/-- A finite double is at most zero by its value. -/
theorem atMost_zero_iff {x : Binary64} (h : x.isFinite = true) :
    x.atMost Binary64.zero = true ↔ x.scaled ≤ 0 := by
  have hzero : Binary64.zero.scaled = 0 := by decide +kernel
  have hnumber : Binary64.zero.isNaN = false := by decide
  simp [Binary64.atMost, Binary64.isNaN_of_isFinite h, hnumber, hzero]

/-- What a check says about a rule. -/
def IsCheckedBy (r : Rule) : Option Fault → Prop
  | none => r.IsSound
  | some fault => r.HasFault fault

theorem aggregation_checked {r : Rule} {a : Aggregation} (ha : a ∈ r.aggregation) :
    match a.fault? r.id with
    | none => a.IsSound
    | some fault => r.HasFault fault := by
  unfold Aggregation.fault?
  by_cases hfield : a.field = ""
  · rw [if_pos (by simpa using hfield)]
    exact .emptyGroupingField ha hfield
  · rw [if_neg (by simpa using hfield)]
    by_cases hzero : a.threshold = 0
    · rw [if_pos hzero]
      exact .zeroThreshold ha hzero
    · rw [if_neg hzero]
      cases hfinite : a.windowSeconds.isFinite with
      | false => exact .badWindow ha (.inl hfinite)
      | true =>
        by_cases hpos : a.windowSeconds.scaled ≤ 0
        · rw [if_pos (by simpa using (atMost_zero_iff hfinite).2 hpos)]
          exact .badWindow ha (.inr hpos)
        · rw [if_neg (by simpa using mt (atMost_zero_iff hfinite).1 hpos)]
          exact ⟨hfield, Nat.pos_of_ne_zero hzero, hfinite, Int.not_le.1 hpos⟩

/-- Checking a rule finds a fault that it has, and none in a sound one only. -/
theorem isCheckedBy_fault? (r : Rule) : r.IsCheckedBy r.fault? := by
  unfold fault?
  by_cases hid : Text.trimmed r.id = ""
  · rw [if_pos ((Text.isAllBlank_iff _).2 hid)]
    exact .emptyId hid
  · rw [if_neg (mt (Text.isAllBlank_iff _).1 hid)]
    by_cases hfields : ∃ c ∈ r.conditions.fields, c.field = ""
    · rw [if_pos (by simpa using hfields)]
      obtain ⟨c, hc, hfield⟩ := hfields
      exact .emptyField hc hfield
    · rw [if_neg (by simpa using hfields)]
      have hnamed : ∀ c ∈ r.conditions.fields, c.field ≠ "" := by simpa using hfields
      cases ha : r.aggregation with
      | none => exact ⟨hid, hnamed, by simp [ha]⟩
      | some a =>
        have hchecked := aggregation_checked (r := r) (a := a) ha
        rw [Option.bind_some]
        cases hfault : a.fault? r.id with
        | none =>
          rw [hfault] at hchecked
          exact ⟨hid, hnamed, by simpa [ha] using hchecked⟩
        | some fault =>
          rw [hfault] at hchecked
          exact hchecked

theorem fault?_eq_none_iff (r : Rule) : r.fault? = none ↔ r.IsSound := by
  have hchecked := isCheckedBy_fault? r
  cases hfault : r.fault? with
  | none =>
    rw [hfault] at hchecked
    exact ⟨fun _ => hchecked, fun _ => rfl⟩
  | some fault =>
    rw [hfault] at hchecked
    exact ⟨nofun, fun hsound => absurd hsound hchecked.not_isSound⟩

/-! ## The first fault -/

/-- A fault that is found belongs to a rule after rules without one. -/
theorem exists_of_firstFault? {seen : List String} {rules : List Rule} {fault : Fault}
    (h : firstFault? seen rules = some fault) :
    ∃ before r after, rules = before ++ r :: after ∧ firstFault? seen before = none ∧
      (r.HasFault fault ∨ r.IsSound ∧ (r.id ∈ seen ∨ r.id ∈ before.map (·.id)) ∧
        fault = .duplicateId r.id) := by
  induction rules generalizing seen with
  | nil => cases h
  | cons r rest ih =>
    rw [firstFault?] at h
    have hchecked := isCheckedBy_fault? r
    cases hfault : r.fault? with
    | some first =>
      simp only [hfault, Option.some.injEq] at h hchecked
      subst h
      exact ⟨[], r, rest, rfl, rfl, .inl hchecked⟩
    | none =>
      simp only [hfault, List.contains_eq_mem, decide_eq_true_eq] at h hchecked
      split at h
      · next hseen =>
        rw [Option.some.injEq] at h
        exact ⟨[], r, rest, rfl, rfl, .inr ⟨hchecked, .inl hseen, h.symm⟩⟩
      · next hseen =>
        obtain ⟨before, blamed, after, rfl, hbefore, hblame⟩ := ih h
        refine ⟨r :: before, blamed, after, rfl, ?_, ?_⟩
        · rw [firstFault?]
          simp only [hfault, List.contains_eq_mem, hseen, decide_false, Bool.false_eq_true,
            if_false, hbefore]
        · rcases hblame with hfaulty | ⟨hsound, hid, heq⟩
          · exact .inl hfaulty
          · rw [List.mem_cons] at hid
            rw [List.map_cons, List.mem_cons]
            exact .inr ⟨hsound, or_left_comm.1 (or_assoc.1 hid), heq⟩

end Rule

/-! ## Rule files -/

namespace RuleFile

/-- What a file with some rules comes to. -/
structure Judges (rules : List Rule) (result : Except Error RuleFile) : Prop where
  accepts : ∀ file, result = .ok file ↔
    (∀ r ∈ rules, r.enabled = true → r.IsSound) ∧
      ((rules.filter (·.enabled)).map (·.id)).Nodup ∧
        file = ⟨rules.filter (·.enabled), rules.countP (!·.enabled)⟩
  refuses : ∀ e, result = .error e →
    ∃ before r after fault, rules = before ++ r :: after ∧ r.enabled = true ∧
      (∀ x ∈ before, x.enabled = true → x.IsSound) ∧
        ((before.filter (·.enabled)).map (·.id)).Nodup ∧ e = .invalid fault ∧
          (r.HasFault fault ∨ r.IsSound ∧ r.id ∈ (before.filter (·.enabled)).map (·.id) ∧
            fault = .duplicateId r.id)
  ignores_disabled : ∀ rules', rules'.filter (·.enabled) = rules.filter (·.enabled) →
    (ofRules rules').map (·.rules) = result.map (·.rules)

theorem firstFault?_enabled_eq_none_iff (rules : List Rule) :
    Rule.firstFault? [] (rules.filter (·.enabled)) = none ↔
      (∀ r ∈ rules, r.enabled = true → r.IsSound) ∧
        ((rules.filter (·.enabled)).map (·.id)).Nodup := by
  rw [Rule.firstFault?_eq_none_iff]
  simp [Rule.fault?_eq_none_iff]

theorem length_sub_length_filter (rules : List Rule) :
    rules.length - (rules.filter (·.enabled)).length = rules.countP (!·.enabled) := by
  have hlength := List.length_eq_countP_add_countP (·.enabled) (l := rules)
  have hdisabled : rules.countP (fun r => decide ¬ r.enabled = true)
      = rules.countP (!·.enabled) :=
    List.countP_congr fun r _ => by simp
  rw [← List.countP_eq_length_filter]
  omega

theorem ofRules_eq_error_iff (rules : List Rule) (e : Error) :
    ofRules rules = .error e ↔
      ∃ fault, Rule.firstFault? [] (rules.filter (·.enabled)) = some fault ∧
        e = .invalid fault := by
  unfold ofRules
  cases hfault : Rule.firstFault? [] (rules.filter (·.enabled)) with
  | some fault => simp [hfault, eq_comm]
  | none => simp [hfault]

/-- The rules of a file depend on its enabled rules alone. -/
theorem map_rules_ofRules (rules : List Rule) :
    (ofRules rules).map (·.rules) =
      match Rule.firstFault? [] (rules.filter (·.enabled)) with
      | some fault => .error (.invalid fault)
      | none => .ok (rules.filter (·.enabled)) := by
  unfold ofRules
  cases hfault : Rule.firstFault? [] (rules.filter (·.enabled)) with
  | some fault => simp [hfault, Except.map]
  | none => simp [hfault, Except.map]

/-- An enabled rule stands in the file behind the enabled rules before it. -/
theorem exists_of_filter_enabled {rules before after : List Rule} {r : Rule}
    (h : rules.filter (·.enabled) = before ++ r :: after) :
    ∃ before' after', rules = before' ++ r :: after' ∧ r.enabled = true ∧
      before'.filter (·.enabled) = before := by
  obtain ⟨first, second, rfl, hfirst, hsecond⟩ := List.filter_eq_append_iff.1 h
  obtain ⟨skipped, after', rfl, hskipped, hr, -⟩ := List.filter_eq_cons_iff.1 hsecond
  refine ⟨first ++ skipped, after', by simp, hr, ?_⟩
  rw [List.filter_append, hfirst, List.filter_eq_nil_iff.2 hskipped, List.append_nil]

/-- **A rule file is used exactly if its enabled rules are sound and have different identifiers.**
    Its rules are then the enabled ones in their order. Otherwise the first of them that is not
    sound, or repeats an identifier, is to blame; rules that are disabled play no part. -/
theorem judges_ofText {source : String} {rules : List Rule} (h : rulesOf? source = some rules) :
    Judges rules (ofText source) := by
  have htext : ofText source = ofRules rules := by
    rw [ofText, h]
  rw [htext]
  constructor
  case accepts =>
    intro file
    rw [ofRules_eq_ok_iff, firstFault?_enabled_eq_none_iff, length_sub_length_filter, and_assoc]
  case refuses =>
    intro e he
    obtain ⟨fault, hfault, rfl⟩ := (ofRules_eq_error_iff rules e).1 he
    obtain ⟨before, r, after, hrules, hbefore, hblame⟩ := Rule.exists_of_firstFault? hfault
    obtain ⟨before, after, rfl, hr, rfl⟩ := exists_of_filter_enabled hrules
    obtain ⟨hsound, hdistinct⟩ := (firstFault?_enabled_eq_none_iff before).1 hbefore
    refine ⟨before, r, after, fault, rfl, hr, hsound, hdistinct, rfl, ?_⟩
    rcases hblame with hfaulty | ⟨hr, hid, heq⟩
    · exact .inl hfaulty
    · exact .inr ⟨hr, hid.resolve_left List.not_mem_nil, heq⟩
  case ignores_disabled =>
    intro rules' hsame
    rw [map_rules_ofRules, map_rules_ofRules, hsame]

/-- Two rules with one identifier, and before them a disabled one without any. -/
def repeatingRules : String :=
  "rules:\n- id: ''\n  enabled: false\n  name: n\n  severity: low\n  conditions:\n" ++
    "- id: a\n  name: n\n  severity: low\n  conditions:\n" ++
    "- id: a\n  name: n\n  severity: low\n  conditions:\n"

theorem judges_repeatingRules :
    ∃ rules, rulesOf? repeatingRules = some rules ∧
      rules.map (fun r => (r.id, r.enabled)) = [("", false), ("a", true), ("a", true)] ∧
        (ofText repeatingRules).map (·.rules.length) = .error (.invalid (.duplicateId "a")) ∧
          Judges rules (ofText repeatingRules) := by
  have hread : (rulesOf? repeatingRules).map (·.map fun r => (r.id, r.enabled))
      = some [("", false), ("a", true), ("a", true)] := by
    decide +kernel
  obtain ⟨rules, hrules, hids⟩ := Option.map_eq_some_iff.1 hread
  refine ⟨rules, hrules, hids, ?_, judges_ofText hrules⟩
  decide +kernel

end RuleFile

end Watchpost
