import Watchpost.Proofs.Json.Reading

set_option autoImplicit false

/-! # Texts with places for values

A pattern is a text with places for values. Each value is escaped where its place is, and all places
are inside of literals. A reader that takes characters off such a text stops in one place for all
values: outside of literals there are none, `Pattern.exists_rest_of_free`, and a literal with places
is taken apart into its own pieces and those of the values, `Pattern.exists_parts`. -/

namespace Watchpost.Json

/-! ## Patterns -/

/-- A character of a text, or a place for the characters of a value. -/
inductive Mark (ι : Type) where
  | char (c : Char)
  | value (i : ι)
deriving DecidableEq, Repr

/-- A text with places for values. -/
abbrev Pattern (ι : Type) := List (Mark ι)

variable {ι : Type}

/-- The text of a pattern: each value is escaped where its place is. -/
def Pattern.fill (σ : ι → String) : Pattern ι → List Char
  | [] => []
  | .char c :: p => c :: fill σ p
  | .value i :: p => escape (σ i).toList ++ fill σ p

/-- Where a character stands: outside of literals, within one, or within an escape of one, with as
    many digits to come. -/
inductive Position where
  | outside
  | inside
  | escape
  | digits (more : Nat)
deriving DecidableEq, Repr

/-- The position behind a character. -/
def Position.next : Position → Char → Position
  | .outside, c => if c = '"' then .inside else .outside
  | .inside, c => if c = '"' then .outside else if c = '\\' then .escape else .inside
  | .escape, c => if c = 'u' then .digits 3 else .inside
  | .digits 0, _ => .inside
  | .digits (more + 1), _ => .digits more

/-- All places are within literals, and none of them is within an escape. -/
def Pattern.isQuoted : Position → Pattern ι → Bool
  | _, [] => true
  | pos, .char c :: p => isQuoted (pos.next c) p
  | pos, .value _ :: p => decide (pos = .inside) && isQuoted pos p

/-! ## Literals with places -/

/-- A piece of a literal, or the place of a value. -/
inductive Part (ι : Type) where
  | piece (p : Piece)
  | value (i : ι)

/-- The pieces of a part, a value being made up of its characters. -/
def Part.pieces (σ : ι → String) : Part ι → List Piece
  | .piece p => [p]
  | .value i => (σ i).toList.map .char

/-- The string that the parts of a literal make up; `none` when half a surrogate pair stands
    alone. -/
def literalText (σ : ι → String) (parts : List (Part ι)) : Option String :=
  (joinPieces (parts.flatMap (Part.pieces σ))).map String.ofList

/-! ## Taking characters off a pattern -/

/-- A text goes through positions where no value has a place. -/
def Position.isShut : Position → List Char → Bool
  | _, [] => true
  | pos, c :: cs => decide (pos ≠ .inside) && isShut (pos.next c) cs

theorem Position.foldl_outside {cs : List Char} (h : '"' ∉ cs) :
    cs.foldl next outside = outside ∧ outside.isShut cs = true := by
  induction cs with
  | nil => exact ⟨rfl, rfl⟩
  | cons c cs ih =>
    rw [List.mem_cons, not_or] at h
    have hnext : next outside c = outside := if_neg (Ne.symm h.1)
    simp [isShut, hnext, ih h.2]

/-- The characters of a piece stand together, so that no value has a place between them. -/
theorem Piece.IsWritten.isShut {q : Piece} {form : List Char} (h : q.IsWritten form) :
    ∃ c used, form = c :: used ∧ (Position.next .inside c).isShut used = true ∧
      form.foldl Position.next .inside = .inside := by
  cases h with
  | @plain c hcontrol hquote hbackslash =>
    exact ⟨c, [], rfl, rfl, by simp [Position.next, hquote, hbackslash]⟩
  | @short e c h =>
    have hu : e ≠ 'u' := by
      rintro rfl
      cases h
    exact ⟨'\\', [e], rfl, rfl, by simp [Position.next, hu]⟩
  | unit => exact ⟨'\\', _, rfl, rfl, rfl⟩

namespace Pattern

variable {σ₀ : ι → String} {p : Pattern ι}

@[simp] theorem fill_append (σ : ι → String) (p q : Pattern ι) :
    fill σ (p ++ q) = fill σ p ++ fill σ q := by
  induction p with
  | nil => rfl
  | cons m p ih => cases m <;> simp [fill, ih]

@[simp] theorem fill_map_char (σ : ι → String) (cs : List Char) :
    fill σ (cs.map .char) = cs := by
  induction cs with
  | nil => rfl
  | cons c cs ih => simp [fill, ih]

/-- Characters that go through positions without places are the same whatever the values are. -/
theorem exists_rest {pos : Position} {used rest : List Char} (hp : isQuoted pos p = true)
    (hused : pos.isShut used = true) (h : fill σ₀ p = used ++ rest) : ∃ p' : Pattern ι,
      p = used.map .char ++ p' ∧ isQuoted (used.foldl Position.next pos) p' = true ∧
        fill σ₀ p' = rest := by
  induction used generalizing pos p with
  | nil => exact ⟨p, rfl, hp, h⟩
  | cons c used ih =>
    simp only [Position.isShut, Bool.and_eq_true, decide_eq_true_eq] at hused
    cases p with
    | nil => cases h
    | cons m p =>
      cases m with
      | char d =>
        obtain ⟨rfl, htail⟩ := List.cons.inj h
        have hp' : isQuoted (pos.next d) p = true := hp
        obtain ⟨p', rfl, hp'', hrest⟩ := ih hp' hused.2 htail
        exact ⟨p', rfl, hp'', hrest⟩
      | value i =>
        simp only [isQuoted, Bool.and_eq_true, decide_eq_true_eq] at hp
        exact absurd hp.1 hused.1

/-- Outside of literals no value has a place in front of a quote. -/
theorem exists_rest_of_free {used rest : List Char} (hp : isQuoted .outside p = true)
    (hused : '"' ∉ used) (h : fill σ₀ p = used ++ rest) : ∃ p' : Pattern ι,
      p = used.map .char ++ p' ∧ isQuoted .outside p' = true ∧ fill σ₀ p' = rest := by
  obtain ⟨hfold, hshut⟩ := Position.foldl_outside hused
  have hrest := exists_rest hp hshut h
  rwa [hfold] at hrest

/-- What stands first outside of literals is no place. -/
theorem exists_rest_of_cons {c : Char} {rest : List Char} (hp : isQuoted .outside p = true)
    (h : fill σ₀ p = c :: rest) : ∃ p' : Pattern ι,
      p = .char c :: p' ∧ isQuoted (Position.next .outside c) p' = true ∧ fill σ₀ p' = rest := by
  cases p with
  | nil => cases h
  | cons m p =>
    cases m with
    | char d =>
      obtain ⟨rfl, hrest⟩ := List.cons.inj h
      exact ⟨p, rfl, hp, hrest⟩
    | value i => simp [isQuoted] at hp

theorem exists_skipSpace (hp : isQuoted .outside p = true) : ∃ p' : Pattern ι,
    isQuoted .outside p' = true ∧ ∀ σ, skipSpace (fill σ p) = fill σ p' := by
  induction p with
  | nil => exact ⟨[], rfl, fun _ => rfl⟩
  | cons m p ih =>
    cases m with
    | value i => simp [isQuoted] at hp
    | char c =>
      cases hc : isSpace c with
      | false => exact ⟨.char c :: p, hp, fun σ => by simp [fill, skipSpace, hc]⟩
      | true =>
        have hquote : c ≠ '"' := by
          rintro rfl
          cases hc
        have hp' : isQuoted .outside p = true := by
          simpa [isQuoted, Position.next, hquote] using hp
        obtain ⟨p', hp'', hskip⟩ := ih hp'
        exact ⟨p', hp'', fun σ => by simpa [fill, skipSpace, hc] using hskip σ⟩

/-- A literal with places ends in one place for all values, and between the pieces of the values
    it has the same pieces. -/
theorem exists_parts (hp : isQuoted .inside p = true) {ps : List Piece} {rest : List Char}
    (h : readPieces (fill σ₀ p) = some (ps, rest)) :
    ∃ (parts : List (Part ι)) (p' : Pattern ι), isQuoted .outside p' = true ∧ ∀ σ, ∃ qs,
      readPieces (fill σ p) = some (qs, fill σ p') ∧ ∀ before,
        joinPieces (before ++ qs) = joinPieces (before ++ parts.flatMap (Part.pieces σ)) := by
  induction hn : p.length using Nat.strongRecOn generalizing p ps with
  | ind n ih =>
    subst hn
    cases p with
    | nil => cases h
    | cons m p =>
      cases m with
      | value i =>
        have hp' : isQuoted .inside p = true := by simpa [isQuoted] using hp
        obtain ⟨us, hread, -⟩ := exists_pieces (σ₀ i).toList
        rw [fill, hread] at h
        obtain ⟨⟨ps', left⟩, hleft, heq⟩ := Option.map_eq_some_iff.1 h
        obtain ⟨-, rfl⟩ := Prod.mk.inj heq
        obtain ⟨parts, p', hp'', hparts⟩ := ih p.length (by simp) hp' hleft rfl
        refine ⟨.value i :: parts, p', hp'', fun σ => ?_⟩
        obtain ⟨qs, hqs, hjoin⟩ := hparts σ
        obtain ⟨vs, hvs, hstands⟩ := exists_pieces (σ i).toList
        refine ⟨vs ++ qs, by simp [fill, hvs, hqs], fun before => ?_⟩
        rw [← List.append_assoc, hstands, hjoin]
        simp [Part.pieces]
      | char c =>
        rcases readPieces_eq_some_iff.1 h with
          ⟨hquote, rfl⟩ | ⟨q, form, cs', ps', hform, hcs, hread, rfl⟩
        · obtain ⟨rfl, -⟩ := List.cons.inj hquote
          exact ⟨[], p, hp, fun σ => ⟨[], rfl, fun before => rfl⟩⟩
        · obtain ⟨c', used, rfl, hshut, hfold⟩ := hform.isShut
          obtain ⟨rfl, htail⟩ := List.cons.inj hcs
          have hp' : isQuoted (Position.next .inside c) p = true := hp
          obtain ⟨p', rfl, hp'', rfl⟩ := exists_rest hp' hshut htail
          rw [← List.foldl_cons, hfold] at hp''
          have hlt : p'.length < (Mark.char c :: (used.map .char ++ p')).length := by
            simp only [List.length_cons, List.length_append, List.length_map]
            omega
          obtain ⟨parts, p'', hp''', hparts⟩ := ih p'.length hlt hp'' hread rfl
          refine ⟨.piece q :: parts, p'', hp''', fun σ => ?_⟩
          obtain ⟨qs, hqs, hjoin⟩ := hparts σ
          refine ⟨q :: qs, ?_, fun before => ?_⟩
          · rw [fill, fill_append, fill_map_char, ← List.cons_append, hform.readPieces_append, hqs]
            rfl
          · simpa [Part.pieces] using hjoin (before ++ [q])

theorem exists_readString (hp : isQuoted .inside p = true)
    {r : Option (List Char) × List Char} (h : readString (fill σ₀ p) = some r) :
    ∃ (parts : List (Part ι)) (p' : Pattern ι), isQuoted .outside p' = true ∧ ∀ σ, ∃ s,
      readString (fill σ p) = some (s, fill σ p') ∧ s.map String.ofList = literalText σ parts := by
  obtain ⟨⟨ps, rest⟩, hread, -⟩ := Option.map_eq_some_iff.1 h
  obtain ⟨parts, p', hp', hparts⟩ := exists_parts hp hread
  refine ⟨parts, p', hp', fun σ => ?_⟩
  obtain ⟨qs, hqs, hjoin⟩ := hparts σ
  exact ⟨joinPieces qs, by simp [readString, hqs], congrArg (Option.map String.ofList) (hjoin [])⟩

/-- Outside of literals a pattern goes on with characters up to its first quote or its end. -/
theorem exists_front (hp : isQuoted .outside p = true) : ∃ (cs : List Char) (p' : Pattern ι),
    p = cs.map .char ++ p' ∧ '"' ∉ cs ∧ (p' = [] ∨ ∃ p'', p' = .char '"' :: p'') := by
  induction p with
  | nil => exact ⟨[], [], rfl, by simp, Or.inl rfl⟩
  | cons m p ih =>
    cases m with
    | value i => simp [isQuoted] at hp
    | char c =>
      by_cases hc : c = '"'
      · subst hc
        exact ⟨[], .char '"' :: p, rfl, by simp, Or.inr ⟨p, rfl⟩⟩
      · have hp' : isQuoted .outside p = true := by simpa [isQuoted, Position.next, hc] using hp
        obtain ⟨cs, p', rfl, hfree, hend⟩ := ih hp'
        exact ⟨c :: cs, p', rfl, by simp [hfree, Ne.symm hc], hend⟩

/-! ## Readers -/

/-- What stands first behind blanks is the same for all values. -/
theorem exists_rest_of_skipSpace {c : Char} {rest : List Char} (hp : isQuoted .outside p = true)
    (h : skipSpace (fill σ₀ p) = c :: rest) : ∃ p' : Pattern ι,
      isQuoted (Position.next .outside c) p' = true ∧ fill σ₀ p' = rest ∧
        ∀ σ, skipSpace (fill σ p) = c :: fill σ p' := by
  obtain ⟨p', hp', hskip⟩ := exists_skipSpace hp
  obtain ⟨p'', rfl, hp'', hfill⟩ := exists_rest_of_cons hp' ((hskip σ₀).symm.trans h)
  exact ⟨p'', hp'', hfill, fun σ => by rw [hskip, fill]⟩

section
variable {α φ : Type}

/-- A reader that reads a pattern for some values reads it for all of them: what it reads has one
    form, and one pattern is left. -/
def ReadsAlike (read : List Char → Option (α × List Char)) (fillForm : (ι → String) → φ → α) :
    Prop :=
  ∀ (σ₀ : ι → String) (p : Pattern ι) r, isQuoted .outside p = true →
    read (fill σ₀ p) = some r → ∃ (form : φ) (p' : Pattern ι), isQuoted .outside p' = true ∧
      ∀ σ, read (fill σ p) = some (fillForm σ form, fill σ p')

theorem readsAlike_readNumber :
    ReadsAlike readNumber fun (_ : ι → String) (n : Option Number) => n := by
  rintro σ₀ p ⟨n, rest⟩ hp h
  obtain ⟨cs, p', rfl, hfree, hend⟩ := exists_front hp
  rw [fill_append, fill_map_char] at h
  have hread : ∃ left, left <:+ cs ∧
      ∀ σ, readNumber (cs ++ fill σ p') = some (n, left ++ fill σ p') := by
    rcases hend with rfl | ⟨p', rfl⟩
    · simp only [fill, List.append_nil] at h ⊢
      obtain ⟨c, cs, rfl, hsuffix⟩ := readNumber_suffix h
      exact ⟨rest, hsuffix.trans (List.suffix_cons c cs), fun _ => h⟩
    · simp only [fill, readNumber_append_quote] at h ⊢
      obtain ⟨⟨m, left⟩, hleft, heq⟩ := Option.map_eq_some_iff.1 h
      obtain ⟨rfl, -⟩ := Prod.mk.inj heq
      obtain ⟨c, cs, rfl, hsuffix⟩ := readNumber_suffix hleft
      exact ⟨left, hsuffix.trans (List.suffix_cons c cs), fun _ => by rw [hleft]; rfl⟩
  obtain ⟨left, ⟨used, rfl⟩, hread⟩ := hread
  have hused : '"' ∉ used := fun hquote => hfree (List.mem_append_left left hquote)
  have hcs : fill σ₀ ((used ++ left).map .char ++ p') = used ++ (left ++ fill σ₀ p') := by simp
  obtain ⟨p'', hp'', hquoted, -⟩ := exists_rest_of_free hp hused hcs
  refine ⟨n, p'', hquoted, fun σ => ?_⟩
  rw [List.map_append, List.append_assoc, List.append_cancel_left_eq] at hp''
  simp only [fill_append, fill_map_char]
  rw [hread, ← hp'', fill_append, fill_map_char]

end

end Pattern

end Watchpost.Json
