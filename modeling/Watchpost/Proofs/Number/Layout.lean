import Watchpost.Proofs.Number.Decimal

set_option autoImplicit false

/-! # Numbers as text, read back

A text of a finite double is a minus sign where the double is negative and then its magnitude:
digits, perhaps with a point or an exponent. `Decimal.ofText` reads such a magnitude as a decimal.
However a layout sets digits out, the decimal that its text writes reads as the double,
`Layout.isMagnitude_magnitude`; so two doubles with one text are the same double,
`Layout.format_injective`. -/

namespace Watchpost

/-! ## The decimal that a text writes -/

namespace Text

/-- The exponent that a text ends in; a text without one has the exponent zero. -/
def exponentOf : List Char → Int
  | 'e' :: '-' :: ds => -(decimalValue ds : Int)
  | 'e' :: '+' :: ds => decimalValue ds
  | 'e' :: ds => decimalValue ds
  | _ => 0

end Text

open Text

/-- The decimal that a text without a sign writes: digits, perhaps a point and more digits, perhaps
    an exponent. -/
def Decimal.ofText (cs : List Char) : Decimal :=
  let (whole, rest) := digitsPrefix cs
  match rest with
  | '.' :: rest =>
    let (places, rest) := digitsPrefix rest
    ⟨decimalValue (whole ++ places), exponentOf rest - places.length⟩
  | _ => ⟨decimalValue whole, exponentOf rest⟩

/-- The characters that a number is written with. -/
def Text.IsNumeric (c : Char) : Prop :=
  c.isDigit = true ∨ c ∈ ['.', 'e', '+', '-']

/-- Nothing, or an exponent. -/
structure IsExponent (cs : List Char) : Prop where
  shape : cs = [] ∨ ∃ rest, cs = 'e' :: rest
  numeric : ∀ c ∈ cs, IsNumeric c

theorem isExponent_nil : IsExponent [] :=
  ⟨.inl rfl, fun _ hc => absurd hc List.not_mem_nil⟩

theorem IsExponent.head?_ne_digit {cs : List Char} (h : IsExponent cs) :
    ∀ c ∈ cs.head?, c.isDigit = false := by
  intro c hc
  rcases h.shape with rfl | ⟨rest, rfl⟩
  · cases hc
  · rw [List.head?_cons, Option.mem_some_iff] at hc
    rw [← hc]
    rfl

namespace Decimal

variable {whole places tail : List Char}

theorem ofText_whole (hwhole : ∀ c ∈ whole, c.isDigit = true) (htail : IsExponent tail) :
    ofText (whole ++ tail) = ⟨decimalValue whole, exponentOf tail⟩ := by
  unfold ofText
  rw [digitsPrefix_append_of_head? hwhole htail.head?_ne_digit]
  dsimp only
  rcases htail.shape with rfl | ⟨rest, rfl⟩ <;> rfl

theorem ofText_point (hwhole : ∀ c ∈ whole, c.isDigit = true)
    (hplaces : ∀ c ∈ places, c.isDigit = true) (htail : IsExponent tail) :
    ofText (whole ++ '.' :: (places ++ tail))
      = ⟨decimalValue (whole ++ places), exponentOf tail - places.length⟩ := by
  have hread := digitsPrefix_append_of_head? hplaces htail.head?_ne_digit
  unfold ofText
  simp only [digitsPrefix_append hwhole (show '.'.isDigit = false from rfl), hread]

end Decimal

/-! ## Exponents -/

theorem Text.exponentOf_nil : exponentOf [] = 0 :=
  rfl

theorem Text.exponentOf_digits {ds : List Char} (h : ∀ c ∈ ds, c.isDigit = true) :
    exponentOf ('e' :: ds) = decimalValue ds := by
  cases ds with
  | nil => rfl
  | cons c rest =>
    -- No mark is a digit.
    have hc : c.isDigit = true := h c List.mem_cons_self
    have hminus : c ≠ '-' := fun he => absurd hc (by rw [he]; decide)
    have hplus : c ≠ '+' := fun he => absurd hc (by rw [he]; decide)
    unfold exponentOf
    split
    · next he => simp [hminus] at he
    · next he => simp [hplus] at he
    · next he =>
      rw [List.cons.injEq] at he
      rw [he.2]
    · next hne => exact absurd rfl (hne _)

/-- The mark of an exponent. -/
def Layout.mark (layout : Layout) (exponent : Int) : List Char :=
  if exponent < 0 then ['-'] else if layout.marksPlus then ['+'] else []

theorem Text.exponentOf_mark (layout : Layout) (exponent : Int) :
    exponentOf ('e' :: (layout.mark exponent ++ decimal exponent.natAbs)) = exponent := by
  unfold Layout.mark
  by_cases hneg : exponent < 0
  · rw [if_pos hneg]
    show -(decimalValue (decimal exponent.natAbs) : Int) = exponent
    rw [decimalValue_decimal]
    omega
  · have hvalue : (decimalValue (decimal exponent.natAbs) : Int) = exponent := by
      rw [decimalValue_decimal]
      omega
    rw [if_neg hneg]
    cases layout.marksPlus with
    | true => exact hvalue
    | false => exact (exponentOf_digits fun c hc => isDigit_of_mem_decimal hc).trans hvalue

/-! ## Magnitudes -/

/-- Zeros at the end of a significand may stand in the exponent. -/
theorem Decimal.reads_of_zeros {x : Binary64} {m n : Nat} {e e' : Int} (k : Nat)
    (h : Decimal.reads ⟨n, e⟩ x = true) (hzeros : m = n * 10 ^ k) (hexponent : e' + k = e) :
    Decimal.reads ⟨m, e'⟩ x = true := by
  rw [reads_iff] at h ⊢
  show Binary64.ofDecimal x.isNegative m e' = x
  rw [hzeros, Binary64.ofDecimal_mul_ten_pow, hexponent]
  exact h

/-- A text that writes the magnitude of a double. -/
structure IsMagnitude (x : Binary64) (cs : List Char) : Prop where
  reads : (Decimal.ofText cs).reads x = true
  starts : ∃ c rest, cs = c :: rest ∧ c.isDigit = true
  numeric : ∀ c ∈ cs, IsNumeric c

section

variable {x : Binary64} {whole places tail : List Char}

theorem Text.IsNumeral.starts (h : IsNumeral whole) (rest : List Char) :
    ∃ c cs, whole ++ rest = c :: cs ∧ c.isDigit = true := by
  obtain ⟨hne, hdigits⟩ := h
  cases whole with
  | nil => exact absurd rfl hne
  | cons c cs => exact ⟨c, cs ++ rest, rfl, hdigits c List.mem_cons_self⟩

theorem isMagnitude_whole (hwhole : IsNumeral whole) (htail : IsExponent tail)
    (hreads : Decimal.reads ⟨decimalValue whole, exponentOf tail⟩ x = true) :
    IsMagnitude x (whole ++ tail) where
  reads := by
    rw [Decimal.ofText_whole hwhole.2 htail]
    exact hreads
  starts := hwhole.starts tail
  numeric := by
    intro c hc
    rcases List.mem_append.1 hc with hdigit | hrest
    · exact .inl (hwhole.2 c hdigit)
    · exact htail.numeric c hrest

theorem isMagnitude_point (hwhole : IsNumeral whole) (hplaces : ∀ c ∈ places, c.isDigit = true)
    (htail : IsExponent tail) (hreads : Decimal.reads
      ⟨decimalValue (whole ++ places), exponentOf tail - places.length⟩ x = true) :
    IsMagnitude x (whole ++ '.' :: (places ++ tail)) where
  reads := by
    rw [Decimal.ofText_point hwhole.2 hplaces htail]
    exact hreads
  starts := hwhole.starts _
  numeric := by
    intro c hc
    rcases List.mem_append.1 hc with hdigit | hrest
    · exact .inl (hwhole.2 c hdigit)
    · rcases List.mem_cons.1 hrest with rfl | hrest
      · exact .inr (by simp)
      · rcases List.mem_append.1 hrest with hdigit | hrest
        · exact .inl (hplaces c hdigit)
        · exact htail.numeric c hrest

end

theorem IsMagnitude.ne_minus {x : Binary64} {cs : List Char} (h : IsMagnitude x cs)
    (rest : List Char) : cs ≠ '-' :: rest := by
  rintro rfl
  obtain ⟨c, tail, hstart, hc⟩ := h.starts
  rw [List.cons.injEq] at hstart
  rw [← hstart.1] at hc
  exact absurd hc (by decide)

/-! ## Digits set out -/

namespace Layout

variable {x : Binary64} {ds : List Char} {exponent : Int}

section

variable (hds : IsNumeral ds)
  (hreads : Decimal.reads ⟨decimalValue ds, exponent - ds.length + 1⟩ x = true)

include hds hreads

/-- The point stands before zeros and all digits. -/
theorem isMagnitude_of_neg (hneg : exponent < 0) :
    IsMagnitude x ('0' :: '.' :: (List.replicate (exponent.natAbs - 1) '0' ++ ds)) := by
  have hplaces : ∀ c ∈ List.replicate (exponent.natAbs - 1) '0' ++ ds, c.isDigit = true :=
    List.forall_mem_append.2 ⟨fun _ hc => isDigit_of_mem_zeros hc, hds.2⟩
  have htext := isMagnitude_point (x := x) (isNumeral_decimal 0) hplaces isExponent_nil (by
      refine Decimal.reads_of_zeros 0 hreads ?_ ?_
      · rw [Nat.pow_zero, Nat.mul_one, ← List.append_assoc]
        exact decimalValue_replicate_append (exponent.natAbs - 1 + 1) ds
      · rw [List.length_append, List.length_replicate, exponentOf_nil]
        omega)
  rwa [List.append_nil] at htext

/-- Zeros fill the digits up to the point. -/
theorem isMagnitude_of_length_le (hneg : ¬ exponent < 0) (hlength : ds.length ≤ exponent.natAbs + 1)
    (point : Bool) :
    IsMagnitude x (ds ++ List.replicate (exponent.natAbs + 1 - ds.length) '0'
      ++ if point then ['.', '0'] else []) := by
  have hwhole : IsNumeral (ds ++ List.replicate (exponent.natAbs + 1 - ds.length) '0') :=
    ⟨List.append_ne_nil_of_left_ne_nil hds.1 _,
      List.forall_mem_append.2 ⟨hds.2, fun _ hc => isDigit_of_mem_zeros hc⟩⟩
  cases point with
  | true =>
    refine isMagnitude_point hwhole (fun c hc => isDigit_of_mem_zeros (k := 1) hc) isExponent_nil
      (Decimal.reads_of_zeros (exponent.natAbs + 1 - ds.length + 1) hreads ?_ ?_)
    · rw [List.append_assoc, List.replicate_append_replicate]
      exact decimalValue_append_replicate ds _
    · rw [List.length_replicate, exponentOf_nil]
      omega
  | false =>
    refine isMagnitude_whole hwhole isExponent_nil
      (Decimal.reads_of_zeros (exponent.natAbs + 1 - ds.length) hreads ?_ ?_)
    · exact decimalValue_append_replicate ds _
    · show exponentOf [] + _ = _
      rw [exponentOf_nil]
      omega

/-- The point stands among the digits. -/
theorem isMagnitude_of_lt_length (hneg : ¬ exponent < 0)
    (hlength : exponent.natAbs + 1 < ds.length) :
    IsMagnitude x (ds.take (exponent.natAbs + 1) ++ '.' :: ds.drop (exponent.natAbs + 1)) := by
  have hwhole : IsNumeral (ds.take (exponent.natAbs + 1)) :=
    ⟨by simp [hds.1], fun c hc => hds.2 c (List.mem_of_mem_take hc)⟩
  have hplaces : ∀ c ∈ ds.drop (exponent.natAbs + 1), c.isDigit = true :=
    fun c hc => hds.2 c (List.mem_of_mem_drop hc)
  have htext := isMagnitude_point (x := x) hwhole hplaces isExponent_nil (by
    refine Decimal.reads_of_zeros 0 hreads ?_ ?_
    · rw [List.take_append_drop, Nat.pow_zero, Nat.mul_one]
    · rw [List.length_drop, exponentOf_nil]
      omega)
  rwa [List.append_nil] at htext

/-- Digits that stand for a decimal are set out as a text that writes it. -/
theorem isMagnitude_positional (layout : Layout) :
    IsMagnitude x (layout.positional ds exponent) := by
  unfold positional
  by_cases hneg : exponent < 0
  · rw [if_pos hneg]
    exact isMagnitude_of_neg hds hreads hneg
  · rw [if_neg hneg]
    by_cases hlength : ds.length ≤ exponent.natAbs + 1
    · rw [if_pos hlength]
      exact isMagnitude_of_length_le hds hreads hneg hlength layout.keepsPoint
    · rw [if_neg hlength]
      exact isMagnitude_of_lt_length hds hreads hneg (Nat.not_le.1 hlength)

end

/-- An exponent as it is set out. -/
def exponentText (layout : Layout) (exponent : Int) : List Char :=
  'e' :: (layout.mark exponent ++ decimal exponent.natAbs)

theorem scientific_singleton (layout : Layout) (d : Char) (exponent : Int) :
    layout.scientific [d] exponent = [d] ++ layout.exponentText exponent := by
  simp [scientific, exponentText, mark]

theorem scientific_cons_cons (layout : Layout) (d d' : Char) (rest : List Char) (exponent : Int) :
    layout.scientific (d :: d' :: rest) exponent
      = [d] ++ '.' :: (d' :: rest ++ layout.exponentText exponent) := by
  simp [scientific, exponentText, mark]

theorem isExponent_exponentText (layout : Layout) (exponent : Int) :
    IsExponent (layout.exponentText exponent) := by
  refine ⟨.inr ⟨_, rfl⟩, fun c hc => ?_⟩
  rcases List.mem_cons.1 hc with rfl | hc
  · exact .inr (by simp)
  · rcases List.mem_append.1 hc with hmark | hdigit
    · unfold mark at hmark
      split at hmark
      · exact .inr (by simp_all)
      · split at hmark
        · exact .inr (by simp_all)
        · cases hmark
    · exact .inl (isDigit_of_mem_decimal hdigit)

/-- So are digits with an exponent. -/
theorem isMagnitude_scientific (layout : Layout) (hds : IsNumeral ds)
    (hreads : Decimal.reads ⟨decimalValue ds, exponent - ds.length + 1⟩ x = true) :
    IsMagnitude x (layout.scientific ds exponent) := by
  have hexponent : exponentOf (layout.exponentText exponent) = exponent :=
    exponentOf_mark layout exponent
  have htail := layout.isExponent_exponentText exponent
  match ds, hds, hreads with
  | [], hds, _ => exact absurd rfl hds.1
  | [d], hds, hreads =>
    rw [scientific_singleton]
    refine isMagnitude_whole hds htail (Decimal.reads_of_zeros 0 hreads ?_ ?_)
    · rw [Nat.pow_zero, Nat.mul_one]
    · rw [hexponent, List.length_singleton]
      omega
  | d :: d' :: rest, hds, hreads =>
    obtain ⟨hd, hplaces⟩ := List.forall_mem_cons.1 hds.2
    have hwhole : IsNumeral [d] := ⟨List.cons_ne_nil d [], List.forall_mem_singleton.2 hd⟩
    rw [scientific_cons_cons]
    refine isMagnitude_point hwhole hplaces htail (Decimal.reads_of_zeros 0 hreads ?_ ?_)
    · rw [Nat.pow_zero, Nat.mul_one]
      rfl
    · rw [hexponent]
      simp only [List.length_cons]
      omega

/-! ## Texts of doubles -/

theorem isMagnitude_zero (h : x.units = 0) (point : Bool) :
    IsMagnitude x (if point then ['0', '.', '0'] else ['0']) := by
  have hwhole : IsNumeral ['0'] := isNumeral_decimal 0
  cases point with
  | true =>
    exact isMagnitude_point hwhole hwhole.2 isExponent_nil
      (Binary64.reads_zero h _)
  | false =>
    exact isMagnitude_whole hwhole isExponent_nil (Binary64.reads_zero h _)

/-- The digits of a decimal, set out. -/
def setOut (layout : Layout) (d : Decimal) : List Char :=
  let ds := decimal d.significand
  let exponent : Int := d.exponent + ds.length - 1
  if layout.lowest ≤ exponent ∧ exponent ≤ layout.highest then layout.positional ds exponent
  else layout.scientific ds exponent

theorem isMagnitude_setOut (layout : Layout) {d : Decimal} (h : d.reads x = true) :
    IsMagnitude x (layout.setOut d) := by
  have hdigits := isNumeral_decimal d.significand
  have hreads : Decimal.reads ⟨decimalValue (decimal d.significand),
      d.exponent + (decimal d.significand).length - 1 - (decimal d.significand).length + 1⟩ x
      = true := by
    apply Decimal.reads_of_zeros 0 h
    · rw [decimalValue_decimal, Nat.pow_zero, Nat.mul_one]
    · omega
  unfold setOut
  dsimp only
  split
  · exact isMagnitude_positional hdigits hreads layout
  · exact isMagnitude_scientific layout hdigits hreads

/-- The text of a finite double without its sign. -/
def magnitude (layout : Layout) (x : Binary64) : List Char :=
  if x.units = 0 then if layout.keepsPoint then ['0', '.', '0'] else ['0']
  else layout.setOut x.shortest

theorem format_eq (layout : Layout) (x : Binary64) :
    layout.format x
      = if x.isNegative then '-' :: layout.magnitude x else layout.magnitude x := by
  unfold format magnitude setOut
  rfl

/-- **The text of a finite double reads back**, its magnitude by `Decimal.ofText`. -/
theorem isMagnitude_magnitude (layout : Layout) (h : x.isFinite = true) :
    IsMagnitude x (layout.magnitude x) := by
  unfold magnitude
  by_cases hzero : x.units = 0
  · rw [if_pos hzero]
    exact isMagnitude_zero hzero layout.keepsPoint
  · rw [if_neg hzero]
    exact isMagnitude_setOut layout (Binary64.reads_shortest h)

theorem point_mem_positional {layout : Layout} (h : layout.keepsPoint = true) (ds : List Char)
    (exponent : Int) : '.' ∈ layout.positional ds exponent := by
  unfold positional
  dsimp only
  split
  · simp
  · split <;> simp

theorem mem_setOut_of_keepsPoint {layout : Layout} (h : layout.keepsPoint = true) (d : Decimal) :
    '.' ∈ layout.setOut d ∨ 'e' ∈ layout.setOut d := by
  unfold setOut
  dsimp only
  split
  · exact .inl (point_mem_positional h _ _)
  · exact .inr (by simp [scientific])

theorem mem_magnitude_of_keepsPoint {layout : Layout} (h : layout.keepsPoint = true)
    (x : Binary64) : '.' ∈ layout.magnitude x ∨ 'e' ∈ layout.magnitude x := by
  unfold magnitude
  split
  · exact .inl (by simp)
  · exact mem_setOut_of_keepsPoint h x.shortest

/-- Where whole numbers keep their point, the text of a double is not that of an integer. -/
theorem mem_format_of_keepsPoint {layout : Layout} (h : layout.keepsPoint = true) (x : Binary64) :
    '.' ∈ layout.format x ∨ 'e' ∈ layout.format x := by
  have hmem := mem_magnitude_of_keepsPoint h x
  rw [format_eq]
  split
  · exact hmem.imp (List.mem_cons_of_mem _) (List.mem_cons_of_mem _)
  · exact hmem

theorem numeric_format (layout : Layout) (h : x.isFinite = true) :
    ∀ c ∈ layout.format x, IsNumeric c := by
  have hnumeric := (isMagnitude_magnitude layout h).numeric
  rw [format_eq]
  split
  · exact List.forall_mem_cons.2 ⟨.inr (by simp), hnumeric⟩
  · exact hnumeric

/-- The text of a double starts with a digit or with a minus sign. -/
theorem exists_format_eq_cons (layout : Layout) (h : x.isFinite = true) :
    ∃ c rest, layout.format x = c :: rest ∧ (c.isDigit = true ∨ c = '-') := by
  obtain ⟨c, rest, hstart, hc⟩ := (isMagnitude_magnitude layout h).starts
  rw [format_eq]
  split
  · exact ⟨'-', _, rfl, .inr rfl⟩
  · exact ⟨c, rest, hstart, .inl hc⟩

/-- **Two finite doubles with one text are the same double.** -/
theorem format_injective (layout : Layout) {x y : Binary64} (hx : x.isFinite = true)
    (hy : y.isFinite = true) (h : layout.format x = layout.format y) : x = y := by
  have hxtext := isMagnitude_magnitude layout hx
  have hytext := isMagnitude_magnitude layout hy
  -- The sign can be told from the first character, and without it the same magnitude is left.
  have hsame : x.isNegative = y.isNegative ∧ layout.magnitude x = layout.magnitude y := by
    rw [format_eq, format_eq] at h
    cases hxsign : x.isNegative <;> cases hysign : y.isNegative <;>
      simp only [hxsign, hysign, Bool.false_eq_true, if_false, if_true] at h
    · exact ⟨rfl, h⟩
    · exact absurd h (hxtext.ne_minus _)
    · exact absurd h.symm (hytext.ne_minus _)
    · rw [List.cons.injEq] at h
      exact ⟨rfl, h.2⟩
  have hxreads := (Decimal.reads_iff _ _).1 hxtext.reads
  have hyreads := (Decimal.reads_iff _ _).1 hytext.reads
  rw [hsame.1, hsame.2] at hxreads
  exact hxreads.symm.trans hyreads

end Layout

end Watchpost
