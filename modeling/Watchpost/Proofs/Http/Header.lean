import Watchpost.Http.Header
import Watchpost.Proofs.Lookup

set_option autoImplicit false

/-! # Headers put one after another

A name has the value that it was given last. After a list of headers has been put, a name has the
last value that the list gives it, or else the one that it had before. -/

namespace Watchpost.Http.Headers

/-- The names that headers give values to. -/
def names (headers : Headers) : List String :=
  headers.map Prod.fst

/-- Put headers one after another. -/
def putAll (headers : Headers) (more : List (String × String)) : Headers :=
  more.foldl (fun hs h => hs.put h.1 h.2) headers

theorem putAll_cons (headers : Headers) (h : String × String) (more : List (String × String)) :
    headers.putAll (h :: more) = (headers.put h.1 h.2).putAll more :=
  rfl

/-- Putting a header changes the value of its name and of no other. -/
theorem get?_put (headers : Headers) (name value key : String) :
    (headers.put name value).get? key = if key = name then some value else headers.get? key := by
  unfold get?
  induction headers with
  | nil => rw [put, lookup_cons_eq_ite]
  | cons h rest ih =>
    obtain ⟨n, v⟩ := h
    rw [put]
    by_cases hn : n = name
    · subst hn
      rw [if_pos rfl, lookup_cons_eq_ite, lookup_cons_eq_ite]
      by_cases hkey : key = n
      · rw [if_pos hkey, if_pos hkey]
      · rw [if_neg hkey, if_neg hkey, if_neg hkey]
    · rw [if_neg hn, lookup_cons_eq_ite, ih, lookup_cons_eq_ite]
      by_cases hkey : key = n
      · rw [if_pos hkey, if_pos hkey, if_neg (fun he => hn (hkey.symm.trans he))]
      · rw [if_neg hkey, if_neg hkey]

theorem mem_names_put {headers : Headers} {name value key : String}
    (h : key ∈ (headers.put name value).names) : key = name ∨ key ∈ headers.names := by
  induction headers with
  | nil => exact Or.inl (List.mem_singleton.1 h)
  | cons entry rest ih =>
    obtain ⟨n, v⟩ := entry
    rw [put] at h
    split at h
    · next hn =>
      rcases List.mem_cons.1 h with hkey | hrest
      · exact Or.inl hkey
      · exact Or.inr (List.mem_cons_of_mem _ hrest)
    · rcases List.mem_cons.1 h with hkey | hrest
      · exact Or.inr (List.mem_cons.2 (Or.inl hkey))
      · exact (ih hrest).imp_right (List.mem_cons_of_mem _)

/-- Putting a header keeps each name once. -/
theorem nodup_names_put {headers : Headers} (h : headers.names.Nodup) (name value : String) :
    (headers.put name value).names.Nodup := by
  induction headers with
  | nil => exact List.nodup_cons.2 ⟨List.not_mem_nil, List.nodup_nil⟩
  | cons entry rest ih =>
    obtain ⟨n, v⟩ := entry
    obtain ⟨hnot, hrest⟩ := List.nodup_cons.1 h
    rw [put]
    split
    · next hn => exact List.nodup_cons.2 ⟨hn ▸ hnot, hrest⟩
    · next hn =>
      refine List.nodup_cons.2 ⟨fun hmem => ?_, ih hrest⟩
      rcases mem_names_put hmem with he | hold
      · exact hn he
      · exact hnot hold

theorem nodup_names_putAll {headers : Headers} (h : headers.names.Nodup)
    (more : List (String × String)) : (headers.putAll more).names.Nodup := by
  induction more generalizing headers with
  | nil => exact h
  | cons entry rest ih =>
    rw [putAll_cons]
    exact ih (nodup_names_put h entry.1 entry.2)

/-- The last value that a list gives to a name counts, then the one that it had before. -/
theorem get?_putAll (headers : Headers) (more : List (String × String)) (key : String) :
    (headers.putAll more).get? key = (more.reverse.lookup key).or (headers.get? key) := by
  induction more generalizing headers with
  | nil => rfl
  | cons h rest ih =>
    obtain ⟨name, value⟩ := h
    rw [putAll_cons, ih, get?_put, List.reverse_cons, List.lookup_append, Option.or_assoc,
      lookup_cons_eq_ite]
    split <;> rfl

end Watchpost.Http.Headers
