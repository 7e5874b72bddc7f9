set_option autoImplicit false

/-! # Looking up in lists of pairs

Buckets, directories, records and objects are lists of pairs. `List.lookup` finds the first pair
with a key; where no key stands twice, it finds every pair. -/

namespace Watchpost

variable {κ α : Type} [BEq κ] [LawfulBEq κ]

theorem mem_of_lookup {pairs : List (κ × α)} {key : κ} {a : α} (h : pairs.lookup key = some a) :
    (key, a) ∈ pairs := by
  obtain ⟨before, after, rfl, -⟩ := List.lookup_eq_some_iff.1 h
  simp

theorem lookup_eq_none_of_not_mem {pairs : List (κ × α)} {key : κ}
    (h : key ∉ pairs.map Prod.fst) : pairs.lookup key = none := by
  rw [List.lookup_eq_none_iff]
  intro pair hpair
  simp only [bne_iff_ne, ne_eq]
  rintro rfl
  exact h (List.mem_map_of_mem hpair)

variable [DecidableEq κ]

theorem lookup_cons_eq_ite (k key : κ) (a : α) (rest : List (κ × α)) :
    ((key, a) :: rest).lookup k = if k = key then some a else rest.lookup k := by
  by_cases h : k = key
  · subst h
    simp
  · have hne : (k == key) = false := beq_eq_false_iff_ne.2 h
    rw [List.lookup_cons, hne, if_neg h]

theorem lookup_of_mem {pairs : List (κ × α)} (h : (pairs.map Prod.fst).Nodup) {key : κ} {a : α}
    (hmem : (key, a) ∈ pairs) : pairs.lookup key = some a := by
  induction pairs with
  | nil => exact absurd hmem List.not_mem_nil
  | cons pair rest ih =>
    obtain ⟨k, old⟩ := pair
    rw [List.map_cons, List.nodup_cons] at h
    rw [lookup_cons_eq_ite]
    rcases List.mem_cons.1 hmem with he | hrest
    · obtain ⟨rfl, rfl⟩ := Prod.mk.inj he
      rw [if_pos rfl]
    · have hkeys : key ∈ rest.map Prod.fst := List.mem_map_of_mem hrest
      have hne : key ≠ k := fun he => h.1 (he ▸ hkeys)
      rw [if_neg hne, ih h.2 hrest]

/-! ## Filtered and mapped lists -/

/-- What is kept by key is found as before. -/
theorem lookup_filter_key (keep : κ → Bool) (key : κ) (pairs : List (κ × α)) :
    (pairs.filter fun x => keep x.1).lookup key =
      if keep key = true then pairs.lookup key else none := by
  induction pairs with
  | nil => simp
  | cons pair rest ih =>
    obtain ⟨k, a⟩ := pair
    rw [List.filter_cons, lookup_cons_eq_ite]
    by_cases hk : key = k
    · subst hk
      split
      · rw [lookup_cons_eq_ite, if_pos rfl, if_pos rfl]
      · next hkeep => rw [ih, if_neg hkeep]
    · rw [if_neg hk, ← ih]
      split
      · rw [lookup_cons_eq_ite, if_neg hk]
      · rfl

/-- Where no key stands twice, what is kept by value is found where it was. -/
theorem lookup_filter_value (keep : α → Bool) {pairs : List (κ × α)}
    (h : (pairs.map Prod.fst).Nodup) (key : κ) :
    (pairs.filter fun x => keep x.2).lookup key = (pairs.lookup key).filter keep := by
  induction pairs with
  | nil => rfl
  | cons pair rest ih =>
    obtain ⟨k, a⟩ := pair
    rw [List.map_cons, List.nodup_cons] at h
    rw [lookup_cons_eq_ite, List.filter_cons]
    by_cases hk : key = k
    · subst hk
      -- The key occurs nowhere else, so that dropping its pair leaves none.
      have hnone : rest.lookup key = none := lookup_eq_none_of_not_mem h.1
      rw [if_pos rfl, Option.filter_some]
      split
      · rw [lookup_cons_eq_ite, if_pos rfl]
      · rw [ih h.2, hnone, Option.filter_none]
    · rw [if_neg hk, ← ih h.2]
      split
      · rw [lookup_cons_eq_ite, if_neg hk]
      · rfl

theorem lookup_map_value {β : Type} (f : α → β) (key : κ) (pairs : List (κ × α)) :
    (pairs.map fun x => (x.1, f x.2)).lookup key = (pairs.lookup key).map f := by
  induction pairs with
  | nil => rfl
  | cons pair rest ih =>
    obtain ⟨k, a⟩ := pair
    rw [List.map_cons, lookup_cons_eq_ite, ih, lookup_cons_eq_ite]
    split <;> rfl

/-! ## Reordered lists -/

omit [DecidableEq κ] in
/-- Where a list gives a key one value at most, its order does not matter to that key. -/
theorem lookup_of_perm {pairs pairs' : List (κ × α)} (h : pairs.Perm pairs') {key : κ}
    (hone : ∀ a b, (key, a) ∈ pairs → (key, b) ∈ pairs → a = b) :
    pairs.lookup key = pairs'.lookup key := by
  cases hfirst : pairs.lookup key with
  | none =>
    symm
    rw [List.lookup_eq_none_iff] at hfirst ⊢
    exact fun pair hpair => hfirst pair (h.mem_iff.2 hpair)
  | some a =>
    have hmem : (key, a) ∈ pairs := mem_of_lookup hfirst
    cases hsecond : pairs'.lookup key with
    | none =>
      have hnone := List.lookup_eq_none_iff.1 hsecond (key, a) (h.mem_iff.1 hmem)
      exact absurd hnone (by simp)
    | some b =>
      have hmem' : (key, b) ∈ pairs := h.mem_iff.2 (mem_of_lookup hsecond)
      rw [hone a b hmem hmem']

/-- Where no key stands twice, the order of a list does not matter. -/
theorem lookup_of_perm_of_nodup {pairs pairs' : List (κ × α)} (h : pairs.Perm pairs')
    (hnodup : (pairs.map Prod.fst).Nodup) (key : κ) : pairs.lookup key = pairs'.lookup key := by
  refine lookup_of_perm h fun a b ha hb => ?_
  have hfound := lookup_of_mem hnodup ha
  rw [lookup_of_mem hnodup hb] at hfound
  exact (Option.some.inj hfound).symm

end Watchpost
