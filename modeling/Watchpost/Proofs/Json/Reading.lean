import Watchpost.Proofs.Json.Escape
import Watchpost.Proofs.Json.Number

set_option autoImplicit false

/-! # Reading JSON text, step by step

What each reader accepts, said once: a literal is its pieces and a quote, `readPieces_eq_some_iff`;
a value starts with a word, a literal, a bracket, a brace or a number, `readValue_succ_iff`; behind
a part of a container stands its end or a comma, `readItems_succ_iff` and `readMembers_succ_iff`.

The fuel of the readers of values decides nothing. What is read with some fuel is read with any
other that is twice the number of characters, `isRead`, so that a whole text is read exactly if
there is any fuel with which it is, `Syntax.read?_eq_some_iff`. -/

namespace Watchpost.Json

/-! ## Literals -/

/-- The ways to write a piece in a literal. -/
inductive Piece.IsWritten : Piece → List Char → Prop
  | plain {c : Char} (hcontrol : ¬ c.toNat < 0x20) (hquote : c ≠ '"') (hbackslash : c ≠ '\\') :
    IsWritten (.char c) [c]
  | short {e c : Char} (h : shortEscape? e = some c) : IsWritten (.char c) ['\\', e]
  | unit {a b c d : Char} {n : Nat} (h : Text.ofDigits? 16 [a, b, c, d] = some n) :
    IsWritten (.unit n) ['\\', 'u', a, b, c, d]

theorem Piece.IsWritten.readPieces_append {p : Piece} {form : List Char} (h : p.IsWritten form)
    (rest : List Char) : readPieces (form ++ rest) = (readPieces rest).map (consPiece p) := by
  cases h with
  | plain hcontrol hquote hbackslash =>
    rw [List.singleton_append, readPieces, if_neg (by simp [hcontrol, hbackslash])]
    · exact hquote
    · intro _ _ _ _ _ h
      exact absurd h hbackslash
    · intro _ _ h
      exact absurd h hbackslash
  | @short e c h =>
    have hu : e ≠ 'u' := by
      rintro rfl
      cases h
    simp [readPieces, h, hu]
  | unit h => simp [readPieces, h]

/-- A literal ends, or it goes on with a piece. -/
theorem readPieces_eq_some_iff {cs : List Char} {ps : List Piece} {rest : List Char} :
    readPieces cs = some (ps, rest) ↔ (cs = '"' :: rest ∧ ps = []) ∨
      ∃ p form cs' ps', Piece.IsWritten p form ∧ cs = form ++ cs' ∧
        readPieces cs' = some (ps', rest) ∧ ps = p :: ps' := by
  constructor
  · intro h
    unfold readPieces at h
    split at h
    · cases h
    · simp only [Option.some.injEq, Prod.mk.injEq] at h
      obtain ⟨rfl, rfl⟩ := h
      exact Or.inl ⟨rfl, rfl⟩
    · split at h
      · next hdigits =>
        obtain ⟨⟨ps', left⟩, hread, heq⟩ := Option.map_eq_some_iff.1 h
        obtain ⟨rfl, rfl⟩ := Prod.mk.inj heq
        exact Or.inr ⟨_, _, _, _, .unit hdigits, rfl, hread, rfl⟩
      · cases h
    · split at h
      · next hescape =>
        obtain ⟨⟨ps', left⟩, hread, heq⟩ := Option.map_eq_some_iff.1 h
        obtain ⟨rfl, rfl⟩ := Prod.mk.inj heq
        exact Or.inr ⟨_, _, _, _, .short hescape, rfl, hread, rfl⟩
      · cases h
    · next hquote _ _ =>
      split at h
      · cases h
      · next hplain =>
        rw [not_or] at hplain
        obtain ⟨⟨ps', left⟩, hread, heq⟩ := Option.map_eq_some_iff.1 h
        obtain ⟨rfl, rfl⟩ := Prod.mk.inj heq
        exact Or.inr ⟨_, _, _, _, .plain hplain.1 hquote hplain.2, rfl, hread, rfl⟩
  · rintro (⟨rfl, rfl⟩ | ⟨p, form, cs', ps', hform, rfl, hread, rfl⟩)
    · rfl
    · rw [hform.readPieces_append, hread]
      rfl

theorem readPieces_suffix {cs : List Char} {ps : List Piece} {rest : List Char}
    (h : readPieces cs = some (ps, rest)) : '"' :: rest <:+ cs := by
  induction ps generalizing cs with
  | nil =>
    rcases readPieces_eq_some_iff.1 h with ⟨rfl, -⟩ | ⟨_, _, _, _, _, _, _, hps⟩
    · exact List.suffix_rfl
    · cases hps
  | cons p ps ih =>
    rcases readPieces_eq_some_iff.1 h with ⟨-, hps⟩ | ⟨_, _, _, _, _, rfl, hread, hps⟩
    · cases hps
    · obtain ⟨-, rfl⟩ := List.cons.inj hps
      exact (ih hread).trans (List.suffix_append _ _)

theorem readString_suffix {cs : List Char} {s : Option (List Char)} {rest : List Char}
    (h : readString cs = some (s, rest)) : '"' :: rest <:+ cs := by
  obtain ⟨⟨ps, left⟩, hread, heq⟩ := Option.map_eq_some_iff.1 h
  obtain ⟨-, rfl⟩ := Prod.mk.inj heq
  exact readPieces_suffix hread

/-! ## Values and containers -/

/-- The words of JSON and what they stand for. -/
def words : List (List Char × Syntax) :=
  [(['n', 'u', 'l', 'l'], .null), (['t', 'r', 'u', 'e'], .bool true),
    (['f', 'a', 'l', 's', 'e'], .bool false)]

section
variable {α : Type} (close : Char) (read : List Char → Option (List α × List Char))

/-- What stands behind the opening mark of a container: its end, or parts up to its end. -/
def Holds (cs : List Char) (parts : List α) (rest : List Char) : Prop :=
  skipSpace cs = close :: rest ∧ parts = [] ∨ read (skipSpace cs) = some (parts, rest)

/-- What stands behind a part of a container: its end, or a comma and further parts. -/
def GoesOn (cs : List Char) (parts : List α) (rest : List Char) : Prop :=
  skipSpace cs = close :: rest ∧ parts = [] ∨
    ∃ cs', skipSpace cs = ',' :: cs' ∧ read cs' = some (parts, rest)

end

/-- A text starts with a value, whose parts are read with the given fuel. -/
inductive StartsWith (fuel : Nat) : List Char → Syntax → List Char → Prop
  | word {w : List Char} {v : Syntax} (h : (w, v) ∈ words) (rest : List Char) :
    StartsWith fuel (w ++ rest) v rest
  | string {cs rest : List Char} {s : Option (List Char)} (h : readString cs = some (s, rest)) :
    StartsWith fuel ('"' :: cs) (.string (s.map String.ofList)) rest
  | array {cs rest : List Char} {items : List Syntax}
    (h : Holds ']' (readItems fuel) cs items rest) :
    StartsWith fuel ('[' :: cs) (.array items) rest
  | object {cs rest : List Char} {members : List (Option String × Syntax)}
    (h : Holds '}' (readMembers fuel) cs members rest) :
    StartsWith fuel ('{' :: cs) (.object members) rest
  | number {cs rest : List Char} {n : Option Number} (h : readNumber cs = some (n, rest)) :
    StartsWith fuel cs (.number n) rest

/-- No item starts like the end of an array. -/
theorem readItems_bracket (fuel : Nat) (cs : List Char) : readItems fuel (']' :: cs) = none := by
  have hnumber : readNumber (']' :: cs) = none := readNumber_eq_none rfl (by decide) cs
  have hvalue : ∀ fuel, readValue fuel (']' :: cs) = none := by
    intro fuel
    cases fuel with
    | zero => rfl
    | succ fuel => simp [readValue, skipSpace, isSpace, hnumber]
  cases fuel with
  | zero => rfl
  | succ fuel => simp [readItems, hvalue]

/-- No member starts like the end of an object. -/
theorem readMembers_brace (fuel : Nat) (cs : List Char) : readMembers fuel ('}' :: cs) = none := by
  cases fuel with
  | zero => rfl
  | succ fuel => simp [readMembers, skipSpace, isSpace]

theorem readValue_succ_iff {fuel : Nat} {cs rest : List Char} {v : Syntax} :
    readValue (fuel + 1) cs = some (v, rest) ↔ StartsWith fuel (skipSpace cs) v rest := by
  rw [readValue]
  generalize skipSpace cs = cs
  constructor
  · intro h
    split at h
    · simp only [Option.some.injEq, Prod.mk.injEq] at h
      obtain ⟨rfl, rfl⟩ := h
      exact .word (w := ['n', 'u', 'l', 'l']) (by simp [words]) _
    · simp only [Option.some.injEq, Prod.mk.injEq] at h
      obtain ⟨rfl, rfl⟩ := h
      exact .word (w := ['t', 'r', 'u', 'e']) (by simp [words]) _
    · simp only [Option.some.injEq, Prod.mk.injEq] at h
      obtain ⟨rfl, rfl⟩ := h
      exact .word (w := ['f', 'a', 'l', 's', 'e']) (by simp [words]) _
    · obtain ⟨⟨s, left⟩, hread, heq⟩ := Option.map_eq_some_iff.1 h
      obtain ⟨rfl, rfl⟩ := Prod.mk.inj heq
      exact .string hread
    · split at h
      · next hclose =>
        simp only [Option.some.injEq, Prod.mk.injEq] at h
        obtain ⟨rfl, rfl⟩ := h
        exact .array (Or.inl ⟨hclose, rfl⟩)
      · obtain ⟨⟨items, left⟩, hread, heq⟩ := Option.map_eq_some_iff.1 h
        obtain ⟨rfl, rfl⟩ := Prod.mk.inj heq
        exact .array (Or.inr hread)
    · split at h
      · next hclose =>
        simp only [Option.some.injEq, Prod.mk.injEq] at h
        obtain ⟨rfl, rfl⟩ := h
        exact .object (Or.inl ⟨hclose, rfl⟩)
      · obtain ⟨⟨members, left⟩, hread, heq⟩ := Option.map_eq_some_iff.1 h
        obtain ⟨rfl, rfl⟩ := Prod.mk.inj heq
        exact .object (Or.inr hread)
    · obtain ⟨⟨n, left⟩, hread, heq⟩ := Option.map_eq_some_iff.1 h
      obtain ⟨rfl, rfl⟩ := Prod.mk.inj heq
      exact .number hread
  · intro h
    cases h with
    | word h rest =>
      simp only [words, List.mem_cons, Prod.mk.injEq, List.not_mem_nil, or_false] at h
      rcases h with ⟨rfl, rfl⟩ | ⟨rfl, rfl⟩ | ⟨rfl, rfl⟩ <;> rfl
    | string h => simp [h]
    | @array cs _ _ h =>
      rcases h with ⟨hclose, rfl⟩ | hread
      · simp [hclose]
      · have hopen : ∀ rest, skipSpace cs = ']' :: rest → False := by
          intro rest hclose
          rw [hclose, readItems_bracket] at hread
          cases hread
        simp [hread]
    | @object cs _ _ h =>
      rcases h with ⟨hclose, rfl⟩ | hread
      · simp [hclose]
      · have hopen : ∀ rest, skipSpace cs = '}' :: rest → False := by
          intro rest hclose
          rw [hclose, readMembers_brace] at hread
          cases hread
        simp [hread]
    | number h =>
      -- A text that starts like one of the others is no number.
      split
      all_goals first
        | cases h
        | rw [h, Option.map_some]

theorem readItems_succ_iff {fuel : Nat} {cs rest : List Char} {items : List Syntax} :
    readItems (fuel + 1) cs = some (items, rest) ↔ ∃ item left others,
      readValue fuel cs = some (item, left) ∧ GoesOn ']' (readItems fuel) left others rest ∧
        items = item :: others := by
  rw [readItems]
  constructor
  · intro h
    obtain ⟨⟨item, left⟩, hitem, h⟩ := Option.bind_eq_some_iff.1 h
    dsimp only at h
    split at h
    · next left' hcomma =>
      obtain ⟨⟨others, left''⟩, hothers, heq⟩ := Option.bind_eq_some_iff.1 h
      simp only [Option.some.injEq, Prod.mk.injEq] at heq
      obtain ⟨rfl, rfl⟩ := heq
      exact ⟨item, left, others, hitem, Or.inr ⟨left', hcomma, hothers⟩, rfl⟩
    · next hclose =>
      simp only [Option.some.injEq, Prod.mk.injEq] at h
      obtain ⟨rfl, rfl⟩ := h
      exact ⟨item, left, [], hitem, Or.inl ⟨hclose, rfl⟩, rfl⟩
    · cases h
  · rintro ⟨item, left, others, hitem, ⟨hclose, rfl⟩ | ⟨left', hcomma, hothers⟩, rfl⟩
    · simp [hitem, hclose]
    · simp [hitem, hcomma, hothers]

theorem readMembers_succ_iff {fuel : Nat} {cs rest : List Char}
    {members : List (Option String × Syntax)} :
    readMembers (fuel + 1) cs = some (members, rest) ↔ ∃ cs' key left left' value after others,
      skipSpace cs = '"' :: cs' ∧ readString cs' = some (key, left) ∧
        skipSpace left = ':' :: left' ∧ readValue fuel left' = some (value, after) ∧
          GoesOn '}' (readMembers fuel) after others rest ∧
            members = (key.map String.ofList, value) :: others := by
  rw [readMembers]
  constructor
  · intro h
    split at h
    · next cs' hquote =>
      obtain ⟨⟨key, left⟩, hkey, h⟩ := Option.bind_eq_some_iff.1 h
      dsimp only at h
      split at h
      · next left' hcolon =>
        obtain ⟨⟨value, after⟩, hvalue, h⟩ := Option.bind_eq_some_iff.1 h
        dsimp only at h
        split at h
        · next after' hcomma =>
          obtain ⟨⟨others, left''⟩, hothers, heq⟩ := Option.bind_eq_some_iff.1 h
          simp only [Option.some.injEq, Prod.mk.injEq] at heq
          obtain ⟨rfl, rfl⟩ := heq
          exact ⟨cs', key, left, left', value, after, others, hquote, hkey, hcolon, hvalue,
            Or.inr ⟨after', hcomma, hothers⟩, rfl⟩
        · next hclose =>
          simp only [Option.some.injEq, Prod.mk.injEq] at h
          obtain ⟨rfl, rfl⟩ := h
          exact ⟨cs', key, left, left', value, after, [], hquote, hkey, hcolon, hvalue,
            Or.inl ⟨hclose, rfl⟩, rfl⟩
        · cases h
      · cases h
    · cases h
  · rintro ⟨cs', key, left, left', value, after, others, hquote, hkey, hcolon, hvalue,
      ⟨hclose, rfl⟩ | ⟨after', hcomma, hothers⟩, rfl⟩
    · simp [hquote, hkey, hcolon, hvalue, hclose]
    · simp [hquote, hkey, hcolon, hvalue, hcomma, hothers]

/-! ## Fuel -/

theorem length_skipSpace_le (cs : List Char) : (skipSpace cs).length ≤ cs.length :=
  (List.dropWhile_suffix _).length_le

section
variable {α : Type} {read read' : List Char → Option (List α × List Char)} {close : Char}
variable {cs rest : List Char} {parts : List α}

theorem Holds.congr (h : Holds close read cs parts rest)
    (hread : ∀ cs' : List Char, cs'.length ≤ cs.length → read cs' = some (parts, rest) →
      rest.length < cs'.length ∧ read' cs' = some (parts, rest)) :
    rest.length < cs.length ∧ Holds close read' cs parts rest := by
  have hle := length_skipSpace_le cs
  rcases h with ⟨hclose, rfl⟩ | hparts
  · rw [hclose] at hle
    exact ⟨hle, Or.inl ⟨hclose, rfl⟩⟩
  · obtain ⟨hlt, hparts'⟩ := hread _ hle hparts
    exact ⟨Nat.lt_of_lt_of_le hlt hle, Or.inr hparts'⟩

theorem GoesOn.congr (h : GoesOn close read cs parts rest)
    (hread : ∀ cs' : List Char, cs'.length < cs.length → read cs' = some (parts, rest) →
      rest.length < cs'.length ∧ read' cs' = some (parts, rest)) :
    rest.length < cs.length ∧ GoesOn close read' cs parts rest := by
  have hle := length_skipSpace_le cs
  rcases h with ⟨hclose, rfl⟩ | ⟨cs', hcomma, hparts⟩
  · rw [hclose] at hle
    exact ⟨hle, Or.inl ⟨hclose, rfl⟩⟩
  · rw [hcomma] at hle
    obtain ⟨hlt, hparts'⟩ := hread cs' hle hparts
    exact ⟨Nat.lt_trans hlt hle, Or.inr ⟨cs', hcomma, hparts'⟩⟩

end

/-- What is read with some fuel takes characters off, and is read with another fuel as well, if that
    is about twice the number of characters. -/
structure IsRead (fuel fuel' : Nat) : Prop where
  value : ∀ cs rest v, readValue fuel cs = some (v, rest) → 2 * cs.length ≤ fuel' + 1 →
    rest.length < cs.length ∧ readValue fuel' cs = some (v, rest)
  items : ∀ cs rest items, readItems fuel cs = some (items, rest) → 2 * cs.length ≤ fuel' →
    rest.length < cs.length ∧ readItems fuel' cs = some (items, rest)
  members : ∀ cs rest members, readMembers fuel cs = some (members, rest) →
    2 * cs.length ≤ fuel' →
      rest.length < cs.length ∧ readMembers fuel' cs = some (members, rest)

theorem IsRead.startsWith {fuel fuel' : Nat} (h : IsRead fuel fuel') {cs rest : List Char}
    {v : Syntax} (hstart : StartsWith fuel cs v rest) (hfuel : 2 * cs.length ≤ fuel' + 2) :
    rest.length < cs.length ∧ StartsWith fuel' cs v rest := by
  cases hstart with
  | word hw =>
    refine ⟨?_, .word hw _⟩
    simp only [words, List.mem_cons, Prod.mk.injEq, List.not_mem_nil, or_false] at hw
    rcases hw with ⟨rfl, -⟩ | ⟨rfl, -⟩ | ⟨rfl, -⟩ <;> simp <;> omega
  | string hread =>
    have hle := (readString_suffix hread).length_le
    simp only [List.length_cons] at hle ⊢
    exact ⟨by omega, .string hread⟩
  | array hitems =>
    simp only [List.length_cons] at hfuel ⊢
    obtain ⟨hlt, hitems'⟩ := hitems.congr fun cs' hcs' hread => h.items _ _ _ hread (by omega)
    exact ⟨by omega, .array hitems'⟩
  | object hmembers =>
    simp only [List.length_cons] at hfuel ⊢
    obtain ⟨hlt, hmembers'⟩ :=
      hmembers.congr fun cs' hcs' hread => h.members _ _ _ hread (by omega)
    exact ⟨by omega, .object hmembers'⟩
  | number hread =>
    refine ⟨?_, .number hread⟩
    obtain ⟨c, cs', rfl, hsuffix⟩ := readNumber_suffix hread
    have hle := hsuffix.length_le
    simp only [List.length_cons] at hle ⊢
    omega

theorem isRead (fuel fuel' : Nat) : IsRead fuel fuel' := by
  induction fuel generalizing fuel' with
  | zero =>
    exact ⟨fun _ _ _ h => (nomatch h), fun _ _ _ h => (nomatch h), fun _ _ _ h => (nomatch h)⟩
  | succ fuel ih =>
    -- A text of which something is read is not empty, so that there is other fuel to spend.
    have hpos : 0 < fuel' → fuel' = fuel' - 1 + 1 := by omega
    have ih := ih (fuel' - 1)
    constructor
    case value =>
      intro cs rest v h hfuel
      have hle := length_skipSpace_le cs
      obtain ⟨hlt, hstart⟩ := ih.startsWith (readValue_succ_iff.1 h) (by omega)
      refine ⟨by omega, ?_⟩
      rw [hpos (by omega)]
      exact readValue_succ_iff.2 hstart
    case items =>
      intro cs rest items h hfuel
      obtain ⟨item, left, others, hitem, hothers, rfl⟩ := readItems_succ_iff.1 h
      obtain ⟨hlt, hitem'⟩ := ih.value cs left item hitem (by omega)
      obtain ⟨hlt', hothers'⟩ :=
        hothers.congr fun cs' hcs' hread => ih.items _ _ _ hread (by omega)
      refine ⟨by omega, ?_⟩
      rw [hpos (by omega)]
      exact readItems_succ_iff.2 ⟨item, left, others, hitem', hothers', rfl⟩
    case members =>
      intro cs rest members h hfuel
      obtain ⟨cs', key, left, left', value, after, others, hquote, hkey, hcolon, hvalue, hothers,
        rfl⟩ := readMembers_succ_iff.1 h
      have hle := length_skipSpace_le cs
      have hle' := (readString_suffix hkey).length_le
      have hle'' := length_skipSpace_le left
      rw [hquote] at hle
      rw [hcolon] at hle''
      simp only [List.length_cons] at hle hle' hle''
      obtain ⟨hlt, hvalue'⟩ := ih.value left' after value hvalue (by omega)
      obtain ⟨hlt', hothers'⟩ :=
        hothers.congr fun cs' hcs' hread => ih.members _ _ _ hread (by omega)
      refine ⟨by omega, ?_⟩
      rw [hpos (by omega)]
      exact readMembers_succ_iff.2 ⟨cs', key, left, left', value, after, others, hquote, hkey,
        hcolon, hvalue', hothers', rfl⟩

/-- **The fuel of a text is enough**: it is read exactly if some fuel reads a value off it and
    leaves but blanks. -/
theorem Syntax.read?_eq_some_iff {text : String} {tree : Syntax} :
    Syntax.read? text = some tree ↔ ∃ fuel rest,
      readValue fuel text.toList = some (tree, rest) ∧ skipSpace rest = [] := by
  unfold Syntax.read?
  constructor
  · intro h
    obtain ⟨⟨v, rest⟩, hread, h⟩ := Option.bind_eq_some_iff.1 h
    dsimp only at h
    split at h
    · next hrest =>
      obtain rfl := Option.some.inj h
      exact ⟨_, rest, hread, List.isEmpty_iff.1 hrest⟩
    · cases h
  · rintro ⟨fuel, rest, hread, hrest⟩
    obtain ⟨-, hread'⟩ := (isRead fuel (2 * text.toList.length + 2)).value _ _ _ hread (by omega)
    simp [hread', hrest]

end Watchpost.Json
