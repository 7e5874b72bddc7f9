import Watchpost.RuleFile

set_option autoImplicit false

/-! # What a usable rule file holds

The check of a file finds no fault exactly when every rule is sound and no identifier is taken. So a
file that is used consists of sound rules with different identifiers: its enabled rules, in the
order in which they are written. -/

namespace Watchpost

theorem Rule.firstFault?_eq_none_iff (seen : List String) (rules : List Rule) :
    Rule.firstFault? seen rules = none ↔
      (∀ r ∈ rules, r.fault? = none) ∧ (∀ r ∈ rules, r.id ∉ seen) ∧
        (rules.map (·.id)).Nodup := by
  induction rules generalizing seen with
  | nil => simp [firstFault?]
  | cons r rest ih =>
    rw [firstFault?]
    cases hfault : r.fault? with
    | some fault => simp [hfault]
    | none =>
      by_cases hseen : r.id ∈ seen
      · simp [hseen]
      · simp only [List.contains_eq_mem, hseen, decide_false, Bool.false_eq_true, if_false, ih,
          List.mem_cons, forall_eq_or_imp, not_or, List.map_cons, List.nodup_cons, List.mem_map,
          not_exists, not_and, hfault, true_and, not_false_eq_true]
        -- The identifier of `r` counts as seen by the rules after it.
        constructor
        · rintro ⟨hsound, hnew, hdistinct⟩
          exact ⟨hsound, fun x hx => (hnew x hx).2, fun x hx => (hnew x hx).1, hdistinct⟩
        · rintro ⟨hsound, hnew, hother, hdistinct⟩
          exact ⟨hsound, fun x hx => ⟨hother x hx, hnew x hx⟩, hdistinct⟩

namespace RuleFile

/-- The enabled rules that a file writes, in order; none if it cannot be read. -/
def enabledRules (f : Option FileTree) : List Rule :=
  (((f.bind FileTree.text?).bind rulesOf?).getD []).filter (·.enabled)

theorem ofRules_eq_ok_iff (rules : List Rule) (file : RuleFile) :
    ofRules rules = .ok file ↔
      Rule.firstFault? [] (rules.filter (·.enabled)) = none ∧
        file = ⟨rules.filter (·.enabled),
          rules.length - (rules.filter (·.enabled)).length⟩ := by
  unfold ofRules
  cases hfault : Rule.firstFault? [] (rules.filter (·.enabled)) with
  | some fault => simp [hfault]
  | none => simp [hfault, eq_comm]

/-- A text that is used holds rules, of which the enabled ones are sound and are taken. -/
theorem ofText_eq_ok_iff (source : String) (file : RuleFile) :
    ofText source = .ok file ↔
      ∃ rules, rulesOf? source = some rules ∧ ofRules rules = .ok file := by
  unfold ofText
  cases rulesOf? source with
  | none => simp
  | some rules => simp

/-- The rules of a text that is used are enabled and sound, and have different identifiers. -/
theorem sound_of_ofText {source : String} {file : RuleFile} (h : ofText source = .ok file) :
    (∀ r ∈ file.rules, r.enabled = true ∧ r.fault? = none) ∧
      (file.rules.map (·.id)).Nodup := by
  obtain ⟨rules, -, hrules⟩ := (ofText_eq_ok_iff source file).1 h
  obtain ⟨hfault, rfl⟩ := (ofRules_eq_ok_iff rules file).1 hrules
  obtain ⟨hsound, -, hdistinct⟩ := (Rule.firstFault?_eq_none_iff _ _).1 hfault
  exact ⟨fun r hr => ⟨(List.mem_filter.1 hr).2, hsound r hr⟩, hdistinct⟩

/-- A file that is used has a text that is used. -/
theorem ofFile_eq_ok_iff (f : Option FileTree) (file : RuleFile) :
    ofFile f = .ok file ↔
      ∃ source, f.bind FileTree.text? = some source ∧ ofText source = .ok file := by
  unfold ofFile
  cases f.bind FileTree.text? with
  | none => simp
  | some source => simp

theorem rules_eq_enabledRules {f : Option FileTree} {file : RuleFile} (h : ofFile f = .ok file) :
    file.rules = enabledRules f := by
  obtain ⟨source, hsource, htext⟩ := (ofFile_eq_ok_iff f file).1 h
  obtain ⟨rules, hread, hrules⟩ := (ofText_eq_ok_iff source file).1 htext
  obtain ⟨-, rfl⟩ := (ofRules_eq_ok_iff rules file).1 hrules
  rw [enabledRules, hsource, Option.bind_some, hread, Option.getD_some]

end RuleFile

end Watchpost
