import Watchpost.Text.Split

set_option autoImplicit false

/-! # Parts of a text, joined again

`Text.split` is the library's `List.splitOn`: joining the parts of a text gives it back, and parts
without the mark are the parts of what they are joined to. So the parts of a text are the only ones
that have no mark in them and are joined to it. -/

namespace Watchpost.Text

theorem split_eq_splitOn (mark : Char) (cs : List Char) : split mark cs = cs.splitOn mark := by
  induction cs with
  | nil => rfl
  | cons c rest ih =>
    rw [split, List.splitOn_cons_eq_if_modifyHead, ih]
    by_cases hc : c = mark
    · simp [hc]
    · cases hparts : rest.splitOn mark with
      | nil => exact absurd hparts (List.splitOn_ne_nil mark rest)
      | cons part parts => simp [hc]

/-- No part has the mark in it. -/
theorem not_mem_of_mem_split {mark : Char} {cs part : List Char} (h : part ∈ split mark cs) :
    mark ∉ part := by
  induction cs generalizing part with
  | nil =>
    rw [split, List.mem_singleton] at h
    simp [h]
  | cons c rest ih =>
    rw [split] at h
    split at h
    · rcases List.mem_cons.1 h with rfl | hrest
      · exact List.not_mem_nil
      · exact ih hrest
    · next hc =>
      cases hparts : split mark rest with
      | nil =>
        simp only [hparts, List.mem_singleton] at h
        simp [h, Ne.symm hc]
      | cons first others =>
        simp only [hparts, List.mem_cons] at h ih
        rcases h with rfl | hother
        · simp only [List.mem_cons, not_or]
          exact ⟨Ne.symm hc, ih (.inl rfl)⟩
        · exact ih (.inr hother)

/-- Texts without a mark that are joined to a text by marks, at least one of them. -/
structure AreParts (mark : Char) (parts : List String) (s : String) : Prop where
  ne_nil : parts ≠ []
  unmarked : ∀ part ∈ parts, mark ∉ part.toList
  joined : (String.singleton mark).intercalate parts = s

/-- The parts of a text are the only ones. -/
theorem splitString_eq_iff (mark : Char) (s : String) (parts : List String) :
    splitString mark s = parts ↔ AreParts mark parts s := by
  constructor
  · rintro rfl
    constructor
    case ne_nil =>
      simp [splitString, split_eq_splitOn]
    case unmarked =>
      intro part hpart
      obtain ⟨cs, hcs, rfl⟩ := List.mem_map.1 hpart
      rw [String.toList_ofList]
      exact not_mem_of_mem_split hcs
    case joined =>
      rw [← String.toList_inj, String.toList_intercalate, splitString, List.map_map]
      simp [split_eq_splitOn, Function.comp_def, List.intercalate_splitOn]
  · rintro ⟨hne, hunmarked, rfl⟩
    have hsplit : (List.intercalate [mark] (parts.map String.toList)).splitOn mark
        = parts.map String.toList :=
      List.splitOn_intercalate mark (by simpa using hunmarked) (by simpa using hne)
    rw [splitString, split_eq_splitOn, String.toList_intercalate, String.toList_singleton, hsplit]
    simp

end Watchpost.Text
