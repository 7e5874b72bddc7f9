import Watchpost.Json.Syntax
import Watchpost.Proofs.Text.Digits

set_option autoImplicit false

/-! # Where numbers end

A number that is read from a text takes characters off its front, `readNumber_suffix`. It ends at
a quote at the latest, and what stands behind that quote has no say in it,
`readNumber_append_quote`. -/

namespace Watchpost.Json

open Text (digitsPrefix digitsPrefix_append_cons digitsPrefix_suffix)

/-! ## What is taken off -/

theorem readExponent_suffix {cs : List Char} {r : Int × List Char} (h : readExponent cs = some r) :
    r.2 <:+ cs := by
  unfold readExponent at h
  split at h
  next negative rest hsign =>
  have hrest : rest <:+ cs := by
    split at hsign
    · obtain ⟨-, rfl⟩ := Prod.mk.inj hsign
      exact List.suffix_cons _ _
    · obtain ⟨-, rfl⟩ := Prod.mk.inj hsign
      exact List.suffix_cons _ _
    · obtain ⟨-, rfl⟩ := Prod.mk.inj hsign
      exact List.suffix_rfl
  dsimp only at h
  split at h
  · cases h
  · obtain rfl := Option.some.inj h
    exact (digitsPrefix_suffix rest).trans hrest

theorem readScaled_suffix {negative : Bool} {g : Gathered} {cs : List Char}
    {r : Option Number × List Char} (h : readScaled negative g cs = some r) : r.2 <:+ cs := by
  unfold readScaled at h
  split at h
  · obtain ⟨⟨e, rest⟩, hexponent, heq⟩ := Option.bind_eq_some_iff.1 h
    obtain rfl := Option.some.inj heq
    exact (readExponent_suffix hexponent).trans (List.suffix_cons _ _)
  · obtain ⟨⟨e, rest⟩, hexponent, heq⟩ := Option.bind_eq_some_iff.1 h
    obtain rfl := Option.some.inj heq
    exact (readExponent_suffix hexponent).trans (List.suffix_cons _ _)
  · obtain rfl := Option.some.inj h
    exact List.suffix_rfl

theorem readMagnitude_suffix {negative : Bool} {cs : List Char} {r : Option Number × List Char}
    (h : readMagnitude negative cs = some r) : ∃ c cs', cs = c :: cs' ∧ r.2 <:+ cs' := by
  have hcs : cs = (digitsPrefix cs).1 ++ (digitsPrefix cs).2 :=
    List.takeWhile_append_dropWhile.symm
  unfold readMagnitude at h
  generalize digitsPrefix cs = split at hcs h
  obtain ⟨ds, rest⟩ := split
  subst hcs
  cases ds with
  | nil => cases h
  | cons d ds =>
    refine ⟨d, ds ++ rest, rfl, List.IsSuffix.trans ?_ (List.suffix_append ds rest)⟩
    dsimp only at h
    split at h
    · cases h
    · cases h
    · split at h
      · split at h
        · cases h
        · exact (readScaled_suffix h).trans
            ((digitsPrefix_suffix _).trans (List.suffix_cons _ _))
      · exact readScaled_suffix h
      · exact readScaled_suffix h
      · split at h
        · obtain rfl := Option.some.inj h
          exact List.suffix_rfl
        · split at h
          · obtain rfl := Option.some.inj h
            exact List.suffix_rfl
          · obtain rfl := Option.some.inj h
            exact List.suffix_rfl

/-- A number has at least one character. -/
theorem readNumber_suffix {cs : List Char} {r : Option Number × List Char}
    (h : readNumber cs = some r) : ∃ c cs', cs = c :: cs' ∧ r.2 <:+ cs' := by
  unfold readNumber at h
  split at h
  · obtain ⟨c, cs', rfl, hsuffix⟩ := readMagnitude_suffix h
    exact ⟨'-', c :: cs', rfl, hsuffix.trans (List.suffix_cons _ _)⟩
  · exact readMagnitude_suffix h

theorem readNumber_eq_none {c : Char} (hdigit : c.isDigit = false) (hminus : c ≠ '-')
    (cs : List Char) : readNumber (c :: cs) = none := by
  have hdigits : digitsPrefix (c :: cs) = ([], c :: cs) := by simp [digitsPrefix, hdigit]
  simp [readNumber, readMagnitude, hminus, hdigits]

/-! ## In front of a quote -/

/-- What is read in front of a text: the text follows what is left. -/
def followedBy {α : Type} (more : List Char) (r : α × List Char) : α × List Char :=
  (r.1, r.2 ++ more)

theorem digitsPrefix_append_quote (cs more : List Char) :
    digitsPrefix (cs ++ '"' :: more)
      = ((digitsPrefix cs).1, (digitsPrefix cs).2 ++ '"' :: more) :=
  digitsPrefix_append_cons rfl cs more

theorem readExponent_append_quote (cs more : List Char) :
    readExponent (cs ++ '"' :: more) = (readExponent cs).map (followedBy ('"' :: more)) := by
  cases cs with
  | nil => rfl
  | cons c cs =>
    by_cases hplus : c = '+'
    · subst hplus
      simp only [readExponent, List.cons_append, digitsPrefix_append_quote]
      split <;> rfl
    · by_cases hminus : c = '-'
      · subst hminus
        simp only [readExponent, List.cons_append, digitsPrefix_append_quote]
        split <;> rfl
      · have hdigits := digitsPrefix_append_quote (c :: cs) more
        rw [List.cons_append] at hdigits
        simp [readExponent, hplus, hminus, hdigits]
        split <;> rfl

theorem readScaled_append_quote (negative : Bool) (g : Gathered) (cs more : List Char) :
    readScaled negative g (cs ++ '"' :: more)
      = (readScaled negative g cs).map (followedBy ('"' :: more)) := by
  cases cs with
  | nil => rfl
  | cons c cs =>
    by_cases hc : c = 'e' ∨ c = 'E'
    · rcases hc with rfl | rfl
      all_goals
        simp only [readScaled, List.cons_append, readExponent_append_quote]
        cases readExponent cs <;> rfl
    · rw [not_or] at hc
      simp [readScaled, hc.1, hc.2, followedBy]

theorem readMagnitude_append_quote (negative : Bool) (cs more : List Char) :
    readMagnitude negative (cs ++ '"' :: more)
      = (readMagnitude negative cs).map (followedBy ('"' :: more)) := by
  unfold readMagnitude
  rw [digitsPrefix_append_quote]
  obtain ⟨ds, rest⟩ := digitsPrefix cs
  dsimp only
  split
  · rfl
  · rfl
  · generalize ds.foldl _ _ = g
    cases rest with
    | nil => simp [apply_ite (Option.map (followedBy ('"' :: more))), followedBy]
    | cons c rest =>
      by_cases hc : c = 'e' ∨ c = 'E'
      · rcases hc with rfl | rfl
        all_goals exact readScaled_append_quote negative g (_ :: rest) more
      · rw [not_or] at hc
        by_cases hpoint : c = '.'
        · subst hpoint
          simp only [List.cons_append, digitsPrefix_append_quote]
          split
          · rfl
          · exact readScaled_append_quote negative _ _ more
        · simp [hc.1, hc.2, hpoint, apply_ite (Option.map (followedBy ('"' :: more))), followedBy]

/-- **A number ends at a quote**, whatever stands behind the quote. -/
theorem readNumber_append_quote (cs more : List Char) :
    readNumber (cs ++ '"' :: more) = (readNumber cs).map (followedBy ('"' :: more)) := by
  cases cs with
  | nil => rfl
  | cons c cs =>
    by_cases hminus : c = '-'
    · subst hminus
      exact readMagnitude_append_quote true cs more
    · have h := readMagnitude_append_quote false (c :: cs) more
      simpa [readNumber, hminus] using h

end Watchpost.Json
