import Watchpost.Proofs.Json.Pattern

set_option autoImplicit false

/-! # The structure of texts with places

All that is read from a pattern has one form: a syntax tree with places in its strings. Which values
stand in the places of the text decides what stands in the places of the tree and nothing else, not
even whether the text can be read, `Pattern.read?_fill`. -/

namespace Watchpost.Json

variable {ι : Type}

/-! ## Trees with places -/

/-- A syntax tree with places for values in its strings. -/
inductive Form (ι : Type) where
  | null
  | bool (b : Bool)
  | number (n : Option Number)
  | string (parts : List (Part ι))
  | array (items : List (Form ι))
  | object (members : List (List (Part ι) × Form ι))

mutual

/-- The tree of a form. -/
def Form.fill (σ : ι → String) : Form ι → Syntax
  | .null => .null
  | .bool b => .bool b
  | .number n => .number n
  | .string parts => .string (literalText σ parts)
  | .array items => .array (fillItems σ items)
  | .object members => .object (fillMembers σ members)

/-- The trees of a list of forms. -/
def Form.fillItems (σ : ι → String) : List (Form ι) → List Syntax
  | [] => []
  | item :: rest => item.fill σ :: fillItems σ rest

/-- The members of an object with places. -/
def Form.fillMembers (σ : ι → String) :
    List (List (Part ι) × Form ι) → List (Option String × Syntax)
  | [] => []
  | (key, value) :: rest => (literalText σ key, value.fill σ) :: fillMembers σ rest

end

/-! ## Containers -/

namespace Pattern

variable {σ₀ : ι → String} {p : Pattern ι}

section
variable {α φ : Type} {read : List Char → Option (List α × List Char)}
variable {fillForms : (ι → String) → List φ → List α}

theorem ReadsAlike.holds (hread : ReadsAlike read fillForms) (hnil : ∀ σ, fillForms σ [] = [])
    {close : Char} (hclose : close ≠ '"') (hp : isQuoted .outside p = true) {parts : List α}
    {rest : List Char} (h : Holds close read (fill σ₀ p) parts rest) :
    ∃ (forms : List φ) (p' : Pattern ι), isQuoted .outside p' = true ∧
      ∀ σ, Holds close read (fill σ p) (fillForms σ forms) (fill σ p') := by
  rcases h with ⟨hend, -⟩ | hparts
  · obtain ⟨p', hp', -, hskip⟩ := exists_rest_of_skipSpace hp hend
    rw [show Position.next .outside close = .outside from if_neg hclose] at hp'
    exact ⟨[], p', hp', fun σ => Or.inl ⟨hskip σ, hnil σ⟩⟩
  · obtain ⟨p', hp', hskip⟩ := exists_skipSpace hp
    rw [hskip] at hparts
    obtain ⟨forms, p'', hp'', hforms⟩ := hread σ₀ p' _ hp' hparts
    exact ⟨forms, p'', hp'', fun σ => Or.inr (by rw [hskip, hforms])⟩

theorem ReadsAlike.goesOn (hread : ReadsAlike read fillForms) (hnil : ∀ σ, fillForms σ [] = [])
    {close : Char} (hclose : close ≠ '"') (hp : isQuoted .outside p = true) {parts : List α}
    {rest : List Char} (h : GoesOn close read (fill σ₀ p) parts rest) :
    ∃ (forms : List φ) (p' : Pattern ι), isQuoted .outside p' = true ∧
      ∀ σ, GoesOn close read (fill σ p) (fillForms σ forms) (fill σ p') := by
  rcases h with ⟨hend, -⟩ | ⟨cs', hcomma, hparts⟩
  · obtain ⟨p', hp', -, hskip⟩ := exists_rest_of_skipSpace hp hend
    rw [show Position.next .outside close = .outside from if_neg hclose] at hp'
    exact ⟨[], p', hp', fun σ => Or.inl ⟨hskip σ, hnil σ⟩⟩
  · obtain ⟨p', hp', rfl, hskip⟩ := exists_rest_of_skipSpace hp hcomma
    obtain ⟨forms, p'', hp'', hforms⟩ := hread σ₀ p' _ hp' hparts
    exact ⟨forms, p'', hp'', fun σ => Or.inr ⟨fill σ p', hskip σ, hforms σ⟩⟩

end

/-! ## Values -/

/-- A word has no quote and nothing in it to fill. -/
theorem free_of_mem_words {w : List Char} {v : Syntax} (h : (w, v) ∈ words) :
    '"' ∉ w ∧ ∃ form : Form ι, ∀ σ, form.fill σ = v := by
  simp only [words, List.mem_cons, Prod.mk.injEq, List.not_mem_nil, or_false] at h
  rcases h with ⟨rfl, rfl⟩ | ⟨rfl, rfl⟩ | ⟨rfl, rfl⟩
  · exact ⟨by decide, .null, fun _ => rfl⟩
  · exact ⟨by decide, .bool true, fun _ => rfl⟩
  · exact ⟨by decide, .bool false, fun _ => rfl⟩

theorem exists_startsWith {fuel : Nat}
    (hitems : ReadsAlike (readItems fuel) (Form.fillItems : (ι → String) → _))
    (hmembers : ReadsAlike (readMembers fuel) (Form.fillMembers : (ι → String) → _))
    (hp : isQuoted .outside p = true) {v : Syntax} {rest : List Char}
    (h : StartsWith fuel (fill σ₀ p) v rest) : ∃ (form : Form ι) (p' : Pattern ι),
      isQuoted .outside p' = true ∧ ∀ σ, StartsWith fuel (fill σ p) (form.fill σ) (fill σ p') := by
  generalize hcs : fill σ₀ p = cs at h
  cases h with
  | word hw =>
    obtain ⟨hfree, form, hform⟩ := @free_of_mem_words ι _ _ hw
    obtain ⟨p', rfl, hp', -⟩ := exists_rest_of_free hp hfree hcs
    exact ⟨form, p', hp', fun σ => by simpa [hform] using .word hw _⟩
  | string h =>
    obtain ⟨p', rfl, hp', rfl⟩ := exists_rest_of_cons hp hcs
    obtain ⟨parts, p'', hp'', hparts⟩ := exists_readString hp' h
    refine ⟨.string parts, p'', hp'', fun σ => ?_⟩
    obtain ⟨s, hs, htext⟩ := hparts σ
    rw [fill, Form.fill, ← htext]
    exact .string hs
  | array h =>
    obtain ⟨p', rfl, hp', rfl⟩ := exists_rest_of_cons hp hcs
    obtain ⟨forms, p'', hp'', hforms⟩ := hitems.holds (fun _ => rfl) (by decide) hp' h
    exact ⟨.array forms, p'', hp'', fun σ => .array (hforms σ)⟩
  | object h =>
    obtain ⟨p', rfl, hp', rfl⟩ := exists_rest_of_cons hp hcs
    obtain ⟨forms, p'', hp'', hforms⟩ := hmembers.holds (fun _ => rfl) (by decide) hp' h
    exact ⟨.object forms, p'', hp'', fun σ => .object (hforms σ)⟩
  | number h =>
    obtain ⟨n, p', hp', hread⟩ := readsAlike_readNumber σ₀ p _ hp (hcs ▸ h)
    exact ⟨.number n, p', hp', fun σ => .number (hread σ)⟩

/-- **The readers read a pattern alike for all values**, with the same fuel. -/
theorem readsAlike (ι : Type) (fuel : Nat) :
    ReadsAlike (readValue fuel) (Form.fill : (ι → String) → _) ∧
      ReadsAlike (readItems fuel) (Form.fillItems : (ι → String) → _) ∧
        ReadsAlike (readMembers fuel) (Form.fillMembers : (ι → String) → _) := by
  induction fuel with
  | zero =>
    refine ⟨?_, ?_, ?_⟩
    all_goals
      intro σ₀ p r hp h
      cases h
  | succ fuel ih =>
    obtain ⟨hvalue, hitems, hmembers⟩ := ih
    refine ⟨?_, ?_, ?_⟩
    · rintro σ₀ p ⟨v, rest⟩ hp h
      obtain ⟨p', hp', hskip⟩ := exists_skipSpace hp
      have hstart := readValue_succ_iff.1 h
      rw [hskip] at hstart
      obtain ⟨form, p'', hp'', hform⟩ := exists_startsWith hitems hmembers hp' hstart
      refine ⟨form, p'', hp'', fun σ => readValue_succ_iff.2 ?_⟩
      rw [hskip]
      exact hform σ
    · rintro σ₀ p ⟨items, rest⟩ hp h
      obtain ⟨item, left, others, hitem, hothers, -⟩ := readItems_succ_iff.1 h
      obtain ⟨form, p', hp', hform⟩ := hvalue σ₀ p _ hp hitem
      obtain ⟨-, rfl⟩ := Prod.mk.inj (Option.some.inj (hitem.symm.trans (hform σ₀)))
      obtain ⟨forms, p'', hp'', hforms⟩ := hitems.goesOn (fun _ => rfl) (by decide) hp' hothers
      exact ⟨form :: forms, p'', hp'', fun σ =>
        readItems_succ_iff.2 ⟨_, _, _, hform σ, hforms σ, rfl⟩⟩
    · rintro σ₀ p ⟨members, rest⟩ hp h
      obtain ⟨cs', key, left, left', value, after, others, hquote, hkey, hcolon, hv, hothers,
        -⟩ := readMembers_succ_iff.1 h
      obtain ⟨p₁, hp₁, rfl, hskip₁⟩ := exists_rest_of_skipSpace hp hquote
      obtain ⟨parts, p₂, hp₂, hparts⟩ := exists_readString hp₁ hkey
      obtain ⟨s, hs, -⟩ := hparts σ₀
      obtain ⟨-, rfl⟩ := Prod.mk.inj (Option.some.inj (hkey.symm.trans hs))
      obtain ⟨p₃, hp₃, rfl, hskip₃⟩ := exists_rest_of_skipSpace hp₂ hcolon
      obtain ⟨form, p₄, hp₄, hform⟩ := hvalue σ₀ p₃ _ hp₃ hv
      obtain ⟨-, rfl⟩ := Prod.mk.inj (Option.some.inj (hv.symm.trans (hform σ₀)))
      obtain ⟨forms, p₅, hp₅, hforms⟩ := hmembers.goesOn (fun _ => rfl) (by decide) hp₄ hothers
      refine ⟨(parts, form) :: forms, p₅, hp₅, fun σ => ?_⟩
      obtain ⟨s, hs, htext⟩ := hparts σ
      rw [Form.fillMembers, ← htext]
      exact readMembers_succ_iff.2 ⟨_, s, _, _, _, _, _, hskip₁ σ, hs, hskip₃ σ, hform σ, hforms σ,
        rfl⟩

/-- **No value changes the structure of a text** in whose literals it is escaped: either the text
    is not read whatever the values are, or all values give trees of one form. -/
theorem read?_fill {p : Pattern ι} (hp : isQuoted .outside p = true) :
    (∀ σ, Syntax.read? (String.ofList (fill σ p)) = none) ∨
      ∃ form : Form ι, ∀ σ, Syntax.read? (String.ofList (fill σ p)) = some (form.fill σ) := by
  by_cases h : ∃ (σ₀ : ι → String) (tree : Syntax),
      Syntax.read? (String.ofList (fill σ₀ p)) = some tree
  · obtain ⟨σ₀, tree, htree⟩ := h
    obtain ⟨fuel, rest, hread, hrest⟩ := Syntax.read?_eq_some_iff.1 htree
    rw [String.toList_ofList] at hread
    obtain ⟨form, p', hp', hform⟩ := (readsAlike ι fuel).1 σ₀ p _ hp hread
    obtain ⟨-, rfl⟩ := Prod.mk.inj (Option.some.inj (hread.symm.trans (hform σ₀)))
    obtain ⟨p'', hp'', hskip⟩ := exists_skipSpace hp'
    have hend : p'' = [] := by
      rw [hskip] at hrest
      cases p'' with
      | nil => rfl
      | cons m p'' =>
        cases m with
        | char c => cases hrest
        | value i => simp [isQuoted] at hp''
    subst hend
    refine Or.inr ⟨form, fun σ => Syntax.read?_eq_some_iff.2 ⟨fuel, fill σ p', ?_, hskip σ⟩⟩
    rw [String.toList_ofList]
    exact hform σ
  · refine Or.inl fun σ => ?_
    rw [Option.eq_none_iff_forall_ne_some]
    intro tree htree
    exact h ⟨σ, tree, htree⟩

end Pattern

end Watchpost.Json
