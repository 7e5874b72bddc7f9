import Watchpost.Proofs.Json.Compact
import Watchpost.Proofs.Tracker.Run

set_option autoImplicit false

/-! # Values that are grouped apart

Events are counted by the text of the value at a field: a string is its own text, every other value
has its compact text. A string may look like another value, but two strings have one text only if
they are the same, and so have two values that are no strings, `groupingText_inj`. So events of a
rule with two values of one kind are counted in two buckets, `keepsApart`. -/

namespace Watchpost

/-- Whether a value is a string. -/
def Json.isString : Json → Bool
  | .string _ => true
  | _ => false

namespace Path

/-- Only `null` and the empty string are not counted. -/
theorem groupingText_eq_none_iff (v : Json) :
    groupingText v = none ↔ v = .null ∨ v = .string "" := by
  cases v with
  | string s => by_cases hs : s = "" <;> simp [groupingText, hs]
  | _ => simp [groupingText]

/-- A string is counted under itself, any other value under its compact text. -/
theorem groupingText_eq_some_iff (v : Json) (text : String) :
    groupingText v = some text ↔
      (v = .string text ∧ text ≠ "") ∨ (v.isString = false ∧ v ≠ .null ∧ v.compact = text) := by
  cases v with
  | string s =>
    by_cases hs : s = ""
    · simp [groupingText, Json.isString, hs]
    · simp [groupingText, Json.isString, hs]
      rintro rfl
      exact hs
  | _ => simp [groupingText, Json.isString]

/-- **Values of one kind with one text are the same value.** -/
theorem groupingText_inj {v w : Json} (hkind : v.isString = w.isString)
    (h : groupingText v = groupingText w) : v = w := by
  cases htext : groupingText v with
  | none =>
    have hw : groupingText w = none := h.symm.trans htext
    rcases (groupingText_eq_none_iff v).1 htext with rfl | rfl <;>
      rcases (groupingText_eq_none_iff w).1 hw with rfl | rfl
    · rfl
    · cases hkind
    · cases hkind
    · rfl
  | some text =>
    have hw : groupingText w = some text := h.symm.trans htext
    rcases (groupingText_eq_some_iff v text).1 htext with ⟨rfl, -⟩ | ⟨hv, -, hvtext⟩ <;>
      rcases (groupingText_eq_some_iff w text).1 hw with ⟨rfl, -⟩ | ⟨hw', -, hwtext⟩
    · rfl
    · rw [hw'] at hkind
      cases hkind
    · rw [hv] at hkind
      cases hkind
    · exact Json.compact_injective (hvtext.trans hwtext.symm)

end Path

namespace Tracker

open Watchpost.Path (resolve groupingText groupingText_eq_none_iff groupingText_inj)

/-- What it means that values are counted apart: `v` is the value of a bucket and `w` that of an
    event. -/
structure KeepsApart (v w : Json) : Prop where
  /-- Only `null` and the empty string have no bucket. -/
  uncounted : groupingText v = none ↔ v = .null ∨ v = .string ""
  /-- Values of one kind that have one text are the same. -/
  same : v.isString = w.isString → groupingText v = groupingText w → v = w
  /-- An event with a value of that kind is counted in the bucket exactly if the bucket is that of
      its rule and its value. -/
  counted : v.isString = w.isString → ∀ bucketRule text ruleId document a now,
    groupingText v = some text → resolve document a.field = some w →
      ((Step.track ruleId document a now).key? = some ⟨bucketRule, text⟩ ↔
        ruleId = bucketRule ∧ w = v)
  /-- An event with another value of that kind leaves the bucket as it is. -/
  untouched : v.isString = w.isString → v ≠ w → ∀ bucketRule text ruleId document a now,
    groupingText v = some text → resolve document a.field = some w → ∀ t : Tracker,
      (t.track ruleId document a now).2.find? ⟨bucketRule, text⟩ = t.find? ⟨bucketRule, text⟩

theorem key?_track {document : Json} {a : Rule.Aggregation} {w : Json}
    (h : resolve document a.field = some w) (ruleId : String) (now : Instant) :
    (Step.track ruleId document a now).key? = (groupingText w).map fun text => ⟨ruleId, text⟩ := by
  rw [Step.key?, Path.groupingTextAt, h, Option.bind_some]

/-- **Grouping values of one kind never share a bucket.** -/
theorem keepsApart (v w : Json) : KeepsApart v w := by
  have counted : v.isString = w.isString → ∀ bucketRule text ruleId document a now,
      groupingText v = some text → resolve document a.field = some w →
        ((Step.track ruleId document a now).key? = some ⟨bucketRule, text⟩ ↔
          ruleId = bucketRule ∧ w = v) := by
    intro hkind bucketRule text ruleId document a now htext hvalue
    rw [key?_track hvalue, Option.map_eq_some_iff]
    constructor
    · rintro ⟨text', htext', hkey⟩
      obtain ⟨rfl, rfl⟩ := Key.mk.injEq .. ▸ hkey
      exact ⟨rfl, (groupingText_inj hkind (htext.trans htext'.symm)).symm⟩
    · rintro ⟨rfl, rfl⟩
      exact ⟨text, htext, rfl⟩
  constructor
  case uncounted => exact groupingText_eq_none_iff v
  case same => exact groupingText_inj
  case counted => exact counted
  case untouched =>
    intro hkind hne bucketRule text ruleId document a now htext hvalue t
    apply find?_track_of_key_ne
    intro hkey
    exact hne ((counted hkind bucketRule text ruleId document a now htext hvalue).1 hkey).2.symm

/-- A string and another value may well share a text. -/
example : groupingText (.string "true") = groupingText (.bool true) := rfl

end Tracker

end Watchpost
