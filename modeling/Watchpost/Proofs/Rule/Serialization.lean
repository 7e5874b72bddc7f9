import Watchpost.Proofs.Rule.Json
import Watchpost.Proofs.RuleFile
import Watchpost.Proofs.Yaml.Decode

set_option autoImplicit false

/-! # Rules survive serialization

A rule that a rule file loads is read back from its JSON document. What the YAML readers yield is
such as can be written: operators and channels come from their names, and literals and options are
in normal form. The rest, a finite window, is what the check of a rule asks for. -/

namespace Watchpost.Rule

open Yaml (Node Decode)
open Yaml.Decode (Yields yields_true yields_pure yields_required yields_orElse yields_list
  yields_optional yields_value yields_members yields_word)

/-! ## What the readers yield -/

theorem yields_action (depth : Nat) (n : Node) :
    Yields (actionOfYaml depth n) ChannelConfig.IsWritable := by
  refine (yields_true _).bind fun record _ => (yields_true _).bind fun name _ => ?_
  refine (yields_orElse (P := fun ms => Json.IsNormal (.object ms)) Json.isNormal_empty
    yields_members).bind fun options hoptions => yields_pure ?_
  exact ⟨by rw [Channel.name_ofName], hoptions⟩

theorem yields_condition (depth : Nat) (n : Node) :
    Yields (Condition.ofYaml depth n) Condition.IsWritable := by
  refine (yields_true _).bind fun record _ => (yields_true _).bind fun field _ =>
    (yields_true _).bind fun name _ => ?_
  refine (yields_orElse Json.isNormal_null yields_value).bind fun value hvalue => yields_pure ?_
  exact ⟨by rw [Operator.name_ofName], hvalue⟩

theorem yields_aggregation (depth : Nat) (n : Node) :
    Yields (Aggregation.ofYaml depth n) fun a => a.threshold < 2 ^ 64 := by
  refine (yields_true _).bind fun record _ => (yields_true _).bind fun field _ => ?_
  refine (yields_required (yields_word 64)).bind fun threshold hthreshold =>
    (yields_true _).bind fun window _ => yields_pure ?_
  exact hthreshold

/-- What the reader of a rule's conditions makes sure of; a window may still be infinite. -/
structure Conditions.IsDecoded (c : Conditions) : Prop where
  fields : ∀ condition ∈ c.fields, condition.IsWritable
  threshold : ∀ a ∈ c.aggregation, a.threshold < 2 ^ 64

theorem yields_conditions (depth : Nat) (n : Node) :
    Yields (Conditions.ofYaml depth n) Conditions.IsDecoded := by
  refine (yields_true _).bind fun record _ => (yields_true _).bind fun kind _ =>
    (yields_true _).bind fun action _ => ?_
  refine (yields_orElse (fun _ hc => absurd hc List.not_mem_nil)
    fun _ _ => yields_list yields_condition).bind fun fields hfields => ?_
  exact (yields_orElse (fun _ ha => nomatch ha)
    fun _ _ => yields_optional (yields_aggregation _)).bind fun aggregation hthreshold =>
      yields_pure ⟨hfields, hthreshold⟩

/-- What the reader of a rule makes sure of. -/
structure IsDecoded (r : Rule) : Prop where
  conditions : r.conditions.IsDecoded
  actions : ∀ c ∈ r.actions, c.IsWritable

theorem yields_rule (depth : Nat) (n : Node) : Yields (ofYaml depth n) IsDecoded := by
  refine (yields_true _).bind fun record _ => (yields_true _).bind fun id _ =>
    (yields_true _).bind fun name _ => (yields_true _).bind fun description _ =>
    (yields_true _).bind fun enabled _ => (yields_true _).bind fun severity _ => ?_
  refine (yields_required yields_conditions).bind fun conditions hconditions => ?_
  exact (yields_orElse (fun _ hc => absurd hc List.not_mem_nil)
    fun _ _ => yields_list yields_action).bind fun actions hactions =>
      yields_pure ⟨hconditions, hactions⟩

theorem yields_rules (depth : Nat) (n : Node) :
    Yields (listOfYaml depth n) fun rules => ∀ r ∈ rules, r.IsDecoded := by
  refine (yields_true _).bind fun record _ => ?_
  exact yields_orElse (fun _ hr => absurd hr List.not_mem_nil) fun _ _ => yields_list yields_rule

theorem isDecoded_of_listOfText? {source : String} {rules : List Rule}
    (h : listOfText? source = some rules) : ∀ r ∈ rules, r.IsDecoded := by
  simp only [listOfText?, Yaml.decode?, Option.bind_eq_bind, Option.bind_eq_some_iff,
    Option.some.injEq] at h
  obtain ⟨document, -, ⟨_, followed⟩, hread, rfl⟩ := h
  exact yields_rules _ document.root document 0 _ followed hread

/-! ## What a rule file loads -/

theorem Aggregation.isFinite_of_fault?_eq_none {ruleId : String} {a : Aggregation}
    (h : a.fault? ruleId = none) : a.windowSeconds.isFinite = true := by
  unfold fault? at h
  split at h
  · cases h
  · split at h
    · cases h
    · split at h
      · cases h
      · next hwindow =>
        rw [Bool.not_eq_true, Bool.or_eq_false_iff, Bool.not_eq_false'] at hwindow
        exact hwindow.1

/-- A sound rule has a finite window. -/
theorem isFinite_of_fault?_eq_none {r : Rule} (h : r.fault? = none) :
    ∀ a ∈ r.conditions.aggregation, a.windowSeconds.isFinite = true := by
  intro a ha
  unfold fault? at h
  split at h
  · cases h
  · split at h
    · cases h
    · exact Aggregation.isFinite_of_fault?_eq_none (Option.bind_eq_none_iff.1 h a ha)

theorem IsDecoded.isWritable {r : Rule} (h : r.IsDecoded) (hsound : r.fault? = none) :
    r.IsWritable :=
  ⟨⟨h.conditions.fields, fun a ha => ⟨h.conditions.threshold a ha,
    isFinite_of_fault?_eq_none hsound a ha⟩⟩, h.actions⟩

/-- **Rules survive serialization.** Each rule that a rule file loads is read back from its JSON
    document. -/
theorem ofJson?_document_of_ofText {source : String} {file : RuleFile}
    (h : RuleFile.ofText source = .ok file) : ∀ r ∈ file.rules, ofJson? r.document = some r := by
  obtain ⟨rules, hrules, hofRules⟩ := (RuleFile.ofText_eq_ok_iff source file).1 h
  have hdecoded : ∀ r ∈ rules, r.IsDecoded := by
    unfold RuleFile.rulesOf? at hrules
    split at hrules
    · rw [← Option.some.inj hrules]
      exact fun _ hr => absurd hr List.not_mem_nil
    · exact isDecoded_of_listOfText? hrules
  obtain ⟨-, rfl⟩ := (RuleFile.ofRules_eq_ok_iff rules file).1 hofRules
  intro r hr
  have hmem : r ∈ rules := (List.mem_filter.1 hr).1
  have hsound := ((RuleFile.sound_of_ofText h).1 r hr).2
  exact ((hdecoded r hmem).isWritable hsound).ofJson?_document

/-- A rule with an operator and a channel that are not known. -/
def openRule : String :=
  "rules:\n- id: a\n  name: n\n  severity: low\n  conditions:\n    field_conditions:\n" ++
    "    - field: f\n      operator: near\n      value: [1, x]\n  actions:\n  - type: pager"

theorem ofJson?_document_openRule :
    ∃ file, RuleFile.ofText openRule = .ok file ∧
      file.rules.map (fun r => (r.id, r.conditions.fields.map (·.operator),
        r.actions.map (·.channel))) = [("a", [.unknown "near"], [.unknown "pager"])] ∧
      ∀ r ∈ file.rules, ofJson? r.document = some r := by
  have hread : (RuleFile.ofText openRule).toOption.map (fun file => file.rules.map fun r =>
      (r.id, r.conditions.fields.map (·.operator), r.actions.map (·.channel))) =
        some [("a", [.unknown "near"], [.unknown "pager"])] := by
    decide +kernel
  cases hfile : RuleFile.ofText openRule with
  | error e =>
    rw [hfile] at hread
    cases hread
  | ok file =>
    rw [hfile] at hread
    exact ⟨file, rfl, Option.some.inj hread, ofJson?_document_of_ofText hfile⟩

end Watchpost.Rule
