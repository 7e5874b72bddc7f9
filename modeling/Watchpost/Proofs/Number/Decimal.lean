import Watchpost.Number.Layout
import Watchpost.Proofs.Number.Rounding
import Watchpost.Proofs.Text.Digits

set_option autoImplicit false

/-! # Decimals that read as a double

A decimal is read by the number that it stands for: a zero at the end of the significand counts as
one more in the exponent. A finite double is the double nearest to its own magnitude, so the decimal
that writes it out in full reads as the double, and so does the shortest one, `reads_shortest`. -/

namespace Watchpost

namespace Binary64

/-! ## The quotient behind a double -/

/-- The double nearest to a quotient does not depend on how the quotient is written. -/
theorem magnitudeBits_mul_mul_right (num den : Nat) {k : Nat} (h : 0 < k) :
    magnitudeBits (num * k) (den * k) = magnitudeBits num den := by
  have hunits : num * k * unitsPerOne = num * unitsPerOne * k := Nat.mul_right_comm _ _ _
  have hshift : ∀ shift, den * k * Nat.pow 2 shift = den * Nat.pow 2 shift * k :=
    fun shift => Nat.mul_right_comm _ _ _
  unfold magnitudeBits
  simp only [hunits, hshift, Nat.mul_div_mul_right _ _ h, roundHalfEven_mul_mul_right _ _ h]

/-- A double is put together from its sign and its other two fields. -/
theorem ofMagnitude_fields (x : Binary64) :
    ofMagnitude x.isNegative (x.exponentField * 2 ^ 52 + x.fraction) = x := by
  have hlt : x.bits.toNat < 2 ^ 64 := x.bits.toNat_lt
  have hsum : (if x.isNegative then 2 ^ 63 else 0) + (x.exponentField * 2 ^ 52 + x.fraction)
      = x.bits.toNat := by
    unfold isNegative exponentField fraction
    simp only [Nat.pow_eq, decide_eq_true_eq]
    split <;> omega
  unfold ofMagnitude
  rw [Nat.pow_eq, hsum, UInt64.ofNat_toNat]

theorem fraction_lt (x : Binary64) : x.fraction < 2 ^ 52 := by
  unfold fraction
  rw [Nat.pow_eq]
  exact Nat.mod_lt _ (Nat.two_pow_pos 52)

/-- The exponent field of a finite double is not the last one. -/
theorem exponentField_le {x : Binary64} (h : x.isFinite = true) : x.exponentField ≤ 2046 := by
  have hne : x.exponentField ≠ 2047 := bne_iff_ne.1 h
  unfold exponentField at hne ⊢
  simp only [Nat.pow_eq] at hne ⊢
  omega

/-- The shift that `magnitudeBits` works out for a double, and the significand under it. -/
theorem exists_shift (x : Binary64) :
    ∃ shift significand, Nat.log2 x.units - 52 = shift ∧ x.units = significand * 2 ^ shift ∧
      shift * 2 ^ 52 + significand = x.exponentField * 2 ^ 52 + x.fraction := by
  have hfraction := x.fraction_lt
  unfold units
  simp only [Nat.pow_eq]
  by_cases hsmall : x.exponentField = 0
  · -- Without a leading bit the fraction is the significand.
    rw [if_pos hsmall]
    refine ⟨0, x.fraction, ?_, by rw [Nat.pow_zero, Nat.mul_one], by rw [hsmall]⟩
    by_cases hzero : x.fraction = 0
    · rw [hzero]
      rfl
    · have hlog := (Nat.log2_lt hzero).2 hfraction
      omega
  · rw [if_neg hsmall]
    refine ⟨x.exponentField - 1, 2 ^ 52 + x.fraction, ?_, rfl, by omega⟩
    have hne : 2 ^ 52 + x.fraction ≠ 0 := by omega
    have hlog : Nat.log2 (2 ^ 52 + x.fraction) = 52 :=
      (Nat.log2_eq_iff hne).2 ⟨Nat.le_add_right _ _, by omega⟩
    rw [log2_mul_two_pow hne, hlog, Nat.add_sub_cancel_left]

/-- **A finite double is the double nearest to its own magnitude.** -/
theorem ofRatio_units {x : Binary64} (h : x.isFinite = true) :
    ofRatio x.isNegative x.units unitsPerOne = x := by
  have hunit : 0 < unitsPerOne := Nat.pos_of_ne_zero unitsPerOne_ne_zero
  have hexponent := exponentField_le h
  have hfraction := x.fraction_lt
  obtain ⟨shift, significand, hshift, hunits, hsum⟩ := x.exists_shift
  have hround : roundHalfEven (x.units * unitsPerOne) (unitsPerOne * 2 ^ shift) = significand := by
    rw [Nat.mul_comm unitsPerOne, roundHalfEven_mul_mul_right _ _ hunit, hunits]
    exact roundHalfEven_mul_left _ (Nat.two_pow_pos shift)
  have hbits : magnitudeBits x.units unitsPerOne = x.exponentField * 2 ^ 52 + x.fraction := by
    unfold magnitudeBits
    simp only [Nat.pow_eq, Nat.mul_div_cancel _ hunit, hshift, hround, hsum]
    exact Nat.min_eq_left (by omega)
  rw [ofRatio, hbits, ofMagnitude_fields]

/-! ## Zeros at the end of a decimal -/

theorem length_decimal_mul_ten {n : Nat} (h : n ≠ 0) :
    (Text.decimal (n * 10)).length = (Text.decimal n).length + 1 := by
  unfold Text.decimal
  rw [Nat.toList_repr, Nat.toList_repr, Nat.toDigits_of_base_le (by decide) (by omega),
    Nat.mul_div_cancel n (by decide), List.length_append, List.length_singleton]

/-- A zero at the end of the significand counts as one more in the exponent. -/
theorem ofDecimal_mul_ten (negative : Bool) (n : Nat) (exponent : Int) :
    ofDecimal negative (n * 10) exponent = ofDecimal negative n (exponent + 1) := by
  by_cases hn : n = 0
  · subst hn
    simp [ofDecimal]
  · have hlength : ((n * 10).repr.length : Int) + exponent = n.repr.length + (exponent + 1) := by
      have hdigits := length_decimal_mul_ten hn
      unfold Text.decimal at hdigits
      rw [String.length_toList, String.length_toList] at hdigits
      omega
    have hten : n * 10 = 0 ↔ n = 0 := by omega
    have hratio : (if exponent < 0 then
          ofRatio negative (n * 10) (10 ^ exponent.natAbs)
        else ofRatio negative (n * 10 * 10 ^ exponent.natAbs) 1)
        = if exponent + 1 < 0 then ofRatio negative n (10 ^ (exponent + 1).natAbs)
          else ofRatio negative (n * 10 ^ (exponent + 1).natAbs) 1 := by
      unfold ofRatio
      by_cases hneg : exponent < 0
      · -- The zero cancels with a ten of the denominator, here and also where that is the last one.
        have hpow : 10 ^ exponent.natAbs = 10 ^ (exponent + 1).natAbs * 10 := by
          rw [← Nat.pow_succ]
          congr 1
          omega
        rw [if_pos hneg, hpow, magnitudeBits_mul_mul_right _ _ (by decide)]
        by_cases hnext : exponent + 1 < 0
        · rw [if_pos hnext]
        · have hlast : (exponent + 1).natAbs = 0 := by omega
          rw [if_neg hnext, hlast, Nat.pow_zero, Nat.mul_one]
      · have hpow : n * 10 * 10 ^ exponent.natAbs = n * 10 ^ (exponent + 1).natAbs := by
          rw [Nat.mul_assoc, ← Nat.pow_succ']
          congr 2
          omega
        rw [if_neg hneg, if_neg (by omega), hpow]
    unfold ofDecimal
    simp only [Nat.pow_eq, hlength, hten, hratio]

theorem ofDecimal_mul_ten_pow (negative : Bool) (n k : Nat) (exponent : Int) :
    ofDecimal negative (n * 10 ^ k) exponent = ofDecimal negative n (exponent + k) := by
  induction k generalizing exponent with
  | zero => simp
  | succ k ih =>
    rw [Nat.pow_succ, ← Nat.mul_assoc, ofDecimal_mul_ten, ih]
    congr 1
    omega

end Binary64

namespace Decimal

theorem reads_iff (d : Decimal) (x : Binary64) :
    d.reads x = true ↔ Binary64.ofDecimal x.isNegative d.significand d.exponent = x :=
  decide_eq_true_iff

/-- Without zeros at its end a decimal reads as before. -/
theorem reads_stripZeros (fuel : Nat) (d : Decimal) (x : Binary64) :
    (stripZeros fuel d).reads x = d.reads x := by
  induction fuel generalizing d with
  | zero => rfl
  | succ fuel ih =>
    rw [stripZeros]
    split
    · next h =>
      have hten : d.significand / 10 * 10 = d.significand := by omega
      rw [ih]
      unfold reads
      rw [← Binary64.ofDecimal_mul_ten, hten]
    · rfl

end Decimal

namespace Binary64

/-! ## The exact and the shortest decimal -/

theorem units_lt {x : Binary64} (h : x.isFinite = true) {n : Nat} (hn : 2098 ≤ n) :
    x.units < 2 ^ n := by
  have hexponent := exponentField_le h
  have hfraction := x.fraction_lt
  unfold units
  simp only [Nat.pow_eq]
  split
  · exact Nat.lt_of_lt_of_le hfraction (Nat.pow_le_pow_right (by decide) (by omega))
  · calc (2 ^ 52 + x.fraction) * 2 ^ (x.exponentField - 1)
        < 2 ^ 53 * 2 ^ (x.exponentField - 1) :=
          Nat.mul_lt_mul_of_pos_right (by omega) (Nat.two_pow_pos _)
      _ = 2 ^ (53 + (x.exponentField - 1)) := (Nat.pow_add 2 53 _).symm
      _ ≤ 2 ^ n := Nat.pow_le_pow_right (by decide) (by omega)

section

variable {x : Binary64} {places : Nat}

/-- Written out in full, a double that is not zero has nine digits for each thirteen places. -/
theorem lt_length_decimal_units (hzero : x.units ≠ 0) {k : Nat} (hplaces : places = 13 * k + 8) :
    9 * k + 5 < (Text.decimal (x.units * 5 ^ places)).length := by
  apply Nat.lt_of_not_le
  unfold Text.decimal
  rw [Nat.toList_repr, Nat.length_toDigits_le_iff (by decide) (by omega), Nat.not_lt]
  have hpow : (10 ^ 9) ^ k ≤ (5 ^ 13) ^ k := Nat.pow_le_pow_left (by decide) k
  calc 10 ^ (9 * k + 5) = (10 ^ 9) ^ k * 10 ^ 5 := by rw [Nat.pow_add, Nat.pow_mul]
    _ ≤ (5 ^ 13) ^ k * 5 ^ 8 := Nat.mul_le_mul hpow (by decide)
    _ = 1 * 5 ^ places := by rw [← Nat.pow_mul, ← Nat.pow_add, ← hplaces, Nat.one_mul]
    _ ≤ x.units * 5 ^ places := Nat.mul_le_mul_right _ (Nat.pos_of_ne_zero hzero)

/-- A finite double has 28 digits before the point for each 93 binary ones. -/
theorem length_decimal_units_le (h : x.isFinite = true) {k : Nat}
    (hplaces : 2098 ≤ 93 * k + 1 + places) :
    (Text.decimal (x.units * 5 ^ places)).length ≤ 28 * k + 1 + places := by
  have hpow : (2 ^ 93) ^ k ≤ (10 ^ 28) ^ k := Nat.pow_le_pow_left (by decide) k
  apply Text.length_decimal_le (by omega)
  calc x.units * 5 ^ places
      < 2 ^ (93 * k + 1 + places) * 5 ^ places :=
        Nat.mul_lt_mul_of_pos_right (units_lt h hplaces) (Nat.pow_pos (by decide))
    _ = (2 ^ 93) ^ k * 2 * 10 ^ places := by
        rw [Nat.pow_add, Nat.pow_add, Nat.pow_mul, Nat.mul_assoc, ← Nat.mul_pow, Nat.pow_one]
    _ ≤ (10 ^ 28) ^ k * 10 * 10 ^ places :=
        Nat.mul_le_mul_right _ (Nat.mul_le_mul hpow (by decide))
    _ = 10 ^ (28 * k + 1 + places) := by rw [Nat.pow_add, Nat.pow_add, Nat.pow_mul, Nat.pow_one]

end

theorem ofMagnitude_zero {x : Binary64} (h : x.units = 0) : ofMagnitude x.isNegative 0 = x := by
  have hparts : x.exponentField = 0 ∧ x.fraction = 0 := by
    unfold units at h
    simp only [Nat.pow_eq] at h
    split at h
    · next hsmall => exact ⟨hsmall, h⟩
    · have hpos : 0 < (2 ^ 52 + x.fraction) * 2 ^ (x.exponentField - 1) :=
        Nat.mul_pos (by omega) (Nat.two_pow_pos _)
      omega
  have hfields := x.ofMagnitude_fields
  rwa [hparts.1, hparts.2] at hfields

theorem reads_zero {x : Binary64} (h : x.units = 0) (exponent : Int) :
    Decimal.reads ⟨0, exponent⟩ x = true := by
  rw [Decimal.reads_iff]
  unfold ofDecimal
  simp only [true_or, if_true]
  exact ofMagnitude_zero h

/-- The exact decimal, with its number of places as `exists_unitsPerOne_eq` has it. -/
theorem exists_exactDecimal_eq : ∃ places : Nat, places = 1074 ∧ unitsPerOne = 2 ^ places ∧
    ∀ x : Binary64, x.exactDecimal = ⟨x.units * 5 ^ places, -(places : Int)⟩ := by
  have hexponent : (-1074 : Int) = -((1074 : Nat) : Int) := rfl
  unfold unitsPerOne exactDecimal
  simp only [hexponent]
  generalize 1074 = places
  exact ⟨places, rfl, Nat.pow_eq, fun x => by rw [Nat.pow_eq]⟩

/-- A finite double is read back from all its digits. -/
theorem reads_exactDecimal {x : Binary64} (h : x.isFinite = true) :
    x.exactDecimal.reads x = true := by
  obtain ⟨places, hplaces, hunit, hexact⟩ := exists_exactDecimal_eq
  rw [hexact]
  by_cases hzero : x.units = 0
  · rw [hzero, Nat.zero_mul]
    exact reads_zero hzero _
  · have hleast := lt_length_decimal_units hzero (show places = 13 * 82 + 8 from hplaces)
    have hmost := length_decimal_units_le h (show 2098 ≤ 93 * 11 + 1 + places by omega)
    unfold Text.decimal at hleast hmost
    rw [String.length_toList] at hleast hmost
    have hpositive : 0 < 5 ^ places := Nat.pow_pos (by decide)
    have hne : x.units * 5 ^ places ≠ 0 := Nat.mul_ne_zero hzero (Nat.ne_of_gt hpositive)
    have hten : 10 ^ places = unitsPerOne * 5 ^ places := by rw [hunit, ← Nat.mul_pow]
    rw [Decimal.reads_iff]
    unfold ofDecimal
    dsimp only
    rw [if_neg (by omega), if_neg (by omega), if_pos (by omega), Nat.pow_eq, Int.natAbs_neg,
      Int.natAbs_natCast, hten, ofRatio, magnitudeBits_mul_mul_right _ _ hpositive]
    exact ofRatio_units h

/-- **The shortest decimal of a finite double reads as the double.** -/
theorem reads_shortest {x : Binary64} (h : x.isFinite = true) : x.shortest.reads x = true := by
  unfold shortest
  dsimp only
  rw [Decimal.reads_stripZeros]
  cases hfound : ((List.range 17).flatMap fun n =>
      neighbours x.exactDecimal x.exactDecimal.significand.repr.length (n + 1)).find?
        (·.reads x) with
  | none =>
    rw [Option.getD_none]
    exact reads_exactDecimal h
  | some d =>
    have hreads := List.find?_some hfound
    rw [Option.getD_some]
    exact hreads

end Binary64

end Watchpost
