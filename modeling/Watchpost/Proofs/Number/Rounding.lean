import Mathlib.Algebra.Group.Nat.Defs
import Watchpost.Number.Binary64

set_option autoImplicit false

/-! # Integers as doubles

A double keeps 53 binary digits. The double of an integer within 64 bits is therefore the integer
itself below `2 ^ 53`, and above it the nearest multiple of a power of two, its `grain`, a tie going
to the even multiple. `nearestWhole` says this on natural numbers alone, and `scaled_ofInt` that the
bits of the double stand for just that. -/

namespace Watchpost.Binary64

/-! ## Rounding a quotient -/

/-- A rounded quotient is off by half a unit at most. -/
theorem roundHalfEven_bounds (num : Nat) {den : Nat} (h : 0 < den) :
    2 * num ≤ 2 * (roundHalfEven num den * den) + den ∧
      2 * (roundHalfEven num den * den) ≤ 2 * num + den := by
  have hdiv : num / den * den + num % den = num := Nat.div_add_mod' num den
  have hmod : num % den < den := Nat.mod_lt num h
  have hnext : (num / den + 1) * den = num / den * den + den := Nat.succ_mul _ _
  unfold roundHalfEven
  dsimp only
  split
  · omega
  · split
    · omega
    · split <;> omega

theorem le_roundHalfEven {num den low : Nat} (hden : 0 < den) (h : low * den ≤ num) :
    low ≤ roundHalfEven num den := by
  have hquotient : low ≤ num / den := (Nat.le_div_iff_mul_le hden).2 h
  unfold roundHalfEven
  dsimp only
  split
  · exact hquotient
  · split
    · omega
    · split <;> omega

/-- A quotient below a whole number is not rounded beyond it. -/
theorem roundHalfEven_le {num den high : Nat} (hden : 0 < den) (h : num ≤ high * den) :
    roundHalfEven num den ≤ high := by
  have hbounds := (roundHalfEven_bounds num hden).2
  apply Nat.le_of_not_lt
  intro hgt
  have hstep : (high + 1) * den ≤ roundHalfEven num den * den := Nat.mul_le_mul_right den (by omega)
  rw [Nat.succ_mul] at hstep
  omega

theorem roundHalfEven_mul_left (q : Nat) {den : Nat} (h : 0 < den) :
    roundHalfEven (q * den) den = q := by
  apply Nat.le_antisymm
  · exact roundHalfEven_le h (Nat.le_refl _)
  · exact le_roundHalfEven h (Nat.le_refl _)

/-- Rounding a quotient does not depend on how it is written. -/
theorem roundHalfEven_mul_mul_right (num den : Nat) {k : Nat} (h : 0 < k) :
    roundHalfEven (num * k) (den * k) = roundHalfEven num den := by
  unfold roundHalfEven
  have hmod : num * k % (den * k) = num % den * k := Nat.mul_mod_mul_right k num den
  have hleft : 2 * (num % den * k) < den * k ↔ 2 * (num % den) < den := by
    rw [← Nat.mul_assoc]
    exact Nat.mul_lt_mul_right h
  have hright : den * k < 2 * (num % den * k) ↔ den < 2 * (num % den) := by
    rw [← Nat.mul_assoc]
    exact Nat.mul_lt_mul_right h
  simp only [Nat.mul_div_mul_right num den h, hmod, hleft, hright]

/-! ## The fields of a double -/

theorem toNat_bits_ofMagnitude (negative : Bool) {m : Nat} (h : m < 2 ^ 63) :
    (ofMagnitude negative m).bits.toNat = (if negative then 2 ^ 63 else 0) + m := by
  unfold ofMagnitude
  simp only [Nat.pow_eq, UInt64.toNat_ofNat']
  apply Nat.mod_eq_of_lt
  split <;> omega

theorem isNegative_ofMagnitude (negative : Bool) {m : Nat} (h : m < 2 ^ 63) :
    (ofMagnitude negative m).isNegative = negative := by
  unfold isNegative
  rw [toNat_bits_ofMagnitude negative h]
  simp only [Nat.pow_eq]
  cases negative
  · exact decide_eq_false (by simp only [Bool.false_eq_true, if_false]; omega)
  · exact decide_eq_true (by simp only [if_true]; omega)

theorem exponentField_ofMagnitude (negative : Bool) {m : Nat} (h : m < 2 ^ 63) :
    (ofMagnitude negative m).exponentField = m / 2 ^ 52 := by
  unfold exponentField
  rw [toNat_bits_ofMagnitude negative h]
  simp only [Nat.pow_eq]
  split <;> omega

theorem fraction_ofMagnitude (negative : Bool) {m : Nat} (h : m < 2 ^ 63) :
    (ofMagnitude negative m).fraction = m % 2 ^ 52 := by
  unfold fraction
  rw [toNat_bits_ofMagnitude negative h]
  simp only [Nat.pow_eq]
  split <;> omega

theorem magnitudeBits_le (num den : Nat) : magnitudeBits num den ≤ 2047 * 2 ^ 52 := by
  unfold magnitudeBits
  simp only [Nat.pow_eq]
  exact Nat.min_le_right _ _

/-- Rounding a quotient never gives a NaN. -/
theorem isNaN_ofRatio (negative : Bool) (num den : Nat) :
    (ofRatio negative num den).isNaN = false := by
  have hle := magnitudeBits_le num den
  have hlt : magnitudeBits num den < 2 ^ 63 := by omega
  unfold ofRatio isNaN
  rw [exponentField_ofMagnitude negative hlt, fraction_ofMagnitude negative hlt,
    Bool.and_eq_false_iff, beq_eq_false_iff_ne, bne_eq_false_iff_eq]
  -- The largest exponent field comes with an empty fraction only, that of an infinity.
  by_cases hexponent : magnitudeBits num den / 2 ^ 52 = 2047
  · exact Or.inr (by omega)
  · exact Or.inl hexponent

theorem isNaN_ofInt (n : Int) : (ofInt n).isNaN = false :=
  isNaN_ofRatio _ _ _

theorem isNaN_of_isFinite {x : Binary64} (h : x.isFinite = true) : x.isNaN = false := by
  unfold isFinite at h
  unfold isNaN
  rw [beq_eq_false_iff_ne.2 (bne_iff_ne.1 h), Bool.false_and]

/-- The magnitude of a double whose significand has 53 digits, or is the next power of two. -/
theorem units_ofMagnitude (negative : Bool) {shift significand : Nat}
    (hlow : 2 ^ 52 ≤ significand) (hhigh : significand ≤ 2 ^ 53) (hshift : shift ≤ 2000) :
    (ofMagnitude negative (shift * 2 ^ 52 + significand)).units = significand * 2 ^ shift := by
  have hlt : shift * 2 ^ 52 + significand < 2 ^ 63 := by omega
  unfold units
  rw [exponentField_ofMagnitude negative hlt, fraction_ofMagnitude negative hlt]
  simp only [Nat.pow_eq]
  rcases Nat.lt_or_eq_of_le hhigh with hlt' | rfl
  · have hexponent : (shift * 2 ^ 52 + significand) / 2 ^ 52 = shift + 1 := by omega
    have hfraction : 2 ^ 52 + (shift * 2 ^ 52 + significand) % 2 ^ 52 = significand := by omega
    rw [hexponent, hfraction, if_neg (Nat.succ_ne_zero shift), Nat.add_sub_cancel]
  · -- Rounding has carried into the next power of two, which has one more in its exponent field.
    have hexponent : (shift * 2 ^ 52 + 2 ^ 53) / 2 ^ 52 = shift + 2 := by omega
    have hfraction : 2 ^ 52 + (shift * 2 ^ 52 + 2 ^ 53) % 2 ^ 52 = 2 ^ 52 := by omega
    rw [hexponent, hfraction, if_neg (Nat.succ_ne_zero _), show shift + 2 - 1 = shift + 1 by omega,
      Nat.pow_succ 2 shift, Nat.mul_comm (2 ^ shift) 2, ← Nat.mul_assoc]
    rfl

/-- The binary places that a double has at most; a number of its own, so that its power is never
    worked out. -/
theorem exists_unitsPerOne_eq : ∃ places, places = 1074 ∧ unitsPerOne = 2 ^ places := by
  unfold unitsPerOne
  generalize 1074 = places
  exact ⟨places, rfl, Nat.pow_eq⟩

theorem unitsPerOne_ne_zero : unitsPerOne ≠ 0 := by
  obtain ⟨places, -, hunit⟩ := exists_unitsPerOne_eq
  rw [hunit]
  exact Nat.ne_of_gt (Nat.two_pow_pos places)

/-! ## The double of a natural number -/

/-- The distance between neighbouring doubles at a natural number, or one where that is less. -/
def grain (n : Nat) : Nat :=
  2 ^ (Nat.log2 n - 52)

/-- The natural number nearest to `n` that is a double, a tie going to the even multiple of the
    grain. -/
def nearestWhole (n : Nat) : Nat :=
  roundHalfEven n (grain n) * grain n

theorem grain_pos (n : Nat) : 0 < grain n :=
  Nat.two_pow_pos _

theorem grain_of_lt {n : Nat} (h : n < 2 ^ 53) : grain n = 1 := by
  unfold grain
  by_cases hn : n = 0
  · subst hn
    rfl
  · have hlog : Nat.log2 n < 53 := (Nat.log2_lt hn).2 h
    rw [show Nat.log2 n - 52 = 0 by omega, Nat.pow_zero]

/-- Natural numbers below `2 ^ 53` are doubles. -/
theorem nearestWhole_of_lt {n : Nat} (h : n < 2 ^ 53) : nearestWhole n = n := by
  unfold nearestWhole
  rw [grain_of_lt h, Nat.mul_one]
  have hwhole := roundHalfEven_mul_left n (Nat.one_pos)
  rwa [Nat.mul_one] at hwhole

theorem two_pow_mul_grain_le {n : Nat} (h : 2 ^ 52 ≤ n) : 2 ^ 52 * grain n ≤ n := by
  have hn : n ≠ 0 := by omega
  have hlog : 52 ≤ Nat.log2 n := (Nat.le_log2 hn).2 h
  unfold grain
  rw [← Nat.pow_add, Nat.add_sub_cancel' hlog]
  exact Nat.log2_self_le hn

/-- A number from `2 ^ 53` on is not rounded below it. -/
theorem le_nearestWhole {n : Nat} (h : 2 ^ 53 ≤ n) : 2 ^ 53 ≤ nearestWhole n := by
  have hn : n ≠ 0 := by omega
  have hlog : 53 ≤ Nat.log2 n := (Nat.le_log2 hn).2 h
  have hgrain : 2 ≤ grain n := by
    have hpow : 2 ^ 1 ≤ 2 ^ (Nat.log2 n - 52) := Nat.pow_le_pow_right (by decide) (by omega)
    exact hpow
  have hquotient : 2 ^ 52 ≤ roundHalfEven n (grain n) :=
    le_roundHalfEven (grain_pos n) (two_pow_mul_grain_le (by omega))
  calc 2 ^ 53 = 2 ^ 52 * 2 := by decide
    _ ≤ roundHalfEven n (grain n) * grain n := Nat.mul_le_mul hquotient hgrain

/-- Rounding moves a number by half a grain at most. -/
theorem nearestWhole_bounds (n : Nat) :
    2 * n ≤ 2 * nearestWhole n + grain n ∧ 2 * nearestWhole n ≤ 2 * n + grain n :=
  roundHalfEven_bounds n (grain_pos n)

theorem grain_le {n : Nat} (h : n < 2 ^ 64) : grain n ≤ 2048 := by
  have hlog : Nat.log2 n ≤ 63 := by
    by_cases hn : n = 0
    · subst hn
      decide
    · have := (Nat.log2_lt hn).2 h
      omega
  calc 2 ^ (Nat.log2 n - 52) ≤ 2 ^ 11 := Nat.pow_le_pow_right (by decide) (by omega)
    _ = 2048 := by decide

/-- Rounding moves a word by 1024 at most. -/
theorem nearestWhole_near {n : Nat} (h : n < 2 ^ 64) :
    n ≤ nearestWhole n + 1024 ∧ nearestWhole n ≤ n + 1024 := by
  have hbounds := nearestWhole_bounds n
  have hgrain := grain_le h
  omega

theorem log2_mul_two_pow {n : Nat} (h : n ≠ 0) (k : Nat) :
    Nat.log2 (n * 2 ^ k) = Nat.log2 n + k := by
  induction k with
  | zero => rw [Nat.pow_zero, Nat.mul_one, Nat.add_zero]
  | succ k ih =>
    have hne : n * 2 ^ k ≠ 0 := Nat.mul_ne_zero h (Nat.ne_of_gt (Nat.two_pow_pos k))
    rw [Nat.pow_succ, ← Nat.mul_assoc, Nat.mul_comm _ 2, Nat.log2_two_mul hne, ih, Nat.add_assoc]

section

variable {n places : Nat}

/-- With `places` binary places behind the point, the significand of a number has 53 digits, or is
    the next power of two. -/
theorem significand_bounds (hn : n ≠ 0) (hplaces : 52 ≤ places) :
    2 ^ 52 ≤ roundHalfEven (n * 2 ^ places) (2 ^ (Nat.log2 n + places - 52)) ∧
      roundHalfEven (n * 2 ^ places) (2 ^ (Nat.log2 n + places - 52)) ≤ 2 ^ 53 := by
  constructor
  · apply le_roundHalfEven (Nat.two_pow_pos _)
    calc 2 ^ 52 * 2 ^ (Nat.log2 n + places - 52) = 2 ^ Nat.log2 n * 2 ^ places := by
          rw [← Nat.pow_add, ← Nat.pow_add]
          congr 1
          omega
      _ ≤ n * 2 ^ places := Nat.mul_le_mul_right _ (Nat.log2_self_le hn)
  · apply roundHalfEven_le (Nat.two_pow_pos _)
    calc n * 2 ^ places ≤ 2 ^ (Nat.log2 n + 1) * 2 ^ places :=
          Nat.mul_le_mul_right _ (Nat.le_of_lt Nat.lt_log2_self)
      _ = 2 ^ 53 * 2 ^ (Nat.log2 n + places - 52) := by
          rw [← Nat.pow_add, ← Nat.pow_add]
          congr 1
          omega

/-- The significand stands for the nearest number that is a double. -/
theorem significand_mul (hn : n ≠ 0) (hplaces : 52 ≤ places) :
    roundHalfEven (n * 2 ^ places) (2 ^ (Nat.log2 n + places - 52)) *
        2 ^ (Nat.log2 n + places - 52)
      = nearestWhole n * 2 ^ places := by
  by_cases hlog : 52 ≤ Nat.log2 n
  · have hsplit : 2 ^ (Nat.log2 n + places - 52) = grain n * 2 ^ places := by
      unfold grain
      rw [← Nat.pow_add]
      congr 1
      omega
    unfold nearestWhole
    rw [hsplit, roundHalfEven_mul_mul_right _ _ (Nat.two_pow_pos places), Nat.mul_assoc]
  · -- The number has places to spare, so that its significand is exact.
    have hlt : n < 2 ^ 53 := (Nat.log2_lt hn).1 (by omega)
    have hsplit : n * 2 ^ places
        = n * 2 ^ (52 - Nat.log2 n) * 2 ^ (Nat.log2 n + places - 52) := by
      rw [Nat.mul_assoc, ← Nat.pow_add]
      congr 2
      omega
    rw [hsplit, roundHalfEven_mul_left _ (Nat.two_pow_pos _), nearestWhole_of_lt hlt, ← hsplit]

end

/-- The double of a word has the magnitude of the nearest number that is a double. -/
theorem units_ofRatio_one (negative : Bool) {n : Nat} (h : n < 2 ^ 64) :
    (ofRatio negative n 1).units = nearestWhole n * unitsPerOne := by
  by_cases hn : n = 0
  · subst hn
    cases negative <;> decide +kernel
  · have hlog : Nat.log2 n < 64 := (Nat.log2_lt hn).2 h
    obtain ⟨places, hplaces, hunit⟩ := exists_unitsPerOne_eq
    have hleast : 52 ≤ places := by omega
    obtain ⟨hlow, hhigh⟩ := significand_bounds hn hleast
    have hmul := significand_mul hn hleast
    have hbits : magnitudeBits n 1 = (Nat.log2 n + places - 52) * 2 ^ 52 +
        roundHalfEven (n * 2 ^ places) (2 ^ (Nat.log2 n + places - 52)) := by
      unfold magnitudeBits
      simp only [Nat.pow_eq, hunit, Nat.div_one, Nat.one_mul, log2_mul_two_pow hn]
      exact Nat.min_eq_left (by omega)
    unfold ofRatio
    rw [hbits, units_ofMagnitude negative hlow hhigh (by omega), hmul, hunit]

/-! ## The double of an integer -/

/-- The integer nearest to `n` that is a double, a tie going to the even multiple of the grain. -/
def nearestInt (n : Int) : Int :=
  if n < 0 then -(nearestWhole n.natAbs : Int) else nearestWhole n.natAbs

/-- The double of an integer within 64 bits stands for the nearest integer that is a double. -/
theorem scaled_ofInt {n : Int} (h : n.natAbs < 2 ^ 64) :
    (ofInt n).scaled = nearestInt n * unitsPerOne := by
  have hlt : magnitudeBits n.natAbs 1 < 2 ^ 63 := by
    have hle := magnitudeBits_le n.natAbs 1
    omega
  have hunits := units_ofRatio_one (decide (n < 0)) h
  unfold ofInt scaled nearestInt
  rw [hunits, ofRatio, isNegative_ofMagnitude _ hlt]
  by_cases hneg : n < 0
  · rw [if_pos (decide_eq_true hneg), if_pos hneg, Int.neg_mul, Int.natCast_mul]
  · rw [if_neg (by simpa using hneg), if_neg hneg, Int.natCast_mul]

/-- Doubles of integers are equal exactly if the integers are rounded to the same one. -/
theorem scaled_ofInt_eq_iff {m n : Int} (hm : m.natAbs < 2 ^ 64) (hn : n.natAbs < 2 ^ 64) :
    (ofInt m).scaled = (ofInt n).scaled ↔ nearestInt m = nearestInt n := by
  have hunit : (unitsPerOne : Int) ≠ 0 := Int.natCast_ne_zero.2 unitsPerOne_ne_zero
  rw [scaled_ofInt hm, scaled_ofInt hn]
  exact ⟨Int.eq_of_mul_eq_mul_right hunit, fun h => by rw [h]⟩

/-- An integer below `2 ^ 53` in magnitude is rounded to the same one as no other. -/
theorem nearestInt_eq_iff_of_lt {m n : Int} (hm : m.natAbs < 2 ^ 53) :
    nearestInt m = nearestInt n ↔ m = n := by
  refine ⟨fun h => ?_, fun h => by rw [h]⟩
  have hexact := nearestWhole_of_lt hm
  unfold nearestInt at h
  rw [hexact] at h
  by_cases hn : n.natAbs < 2 ^ 53
  · rw [nearestWhole_of_lt hn] at h
    split at h <;> split at h <;> omega
  · -- A larger integer stays beyond `2 ^ 53`, where the smaller one does not get.
    have hbeyond := le_nearestWhole (Nat.not_lt.1 hn)
    split at h <;> split at h <;> omega

/-- Integers that are rounded to the same one lie within 2048 of each other. -/
theorem natAbs_sub_le_of_nearestInt_eq {m n : Int} (hm : m.natAbs < 2 ^ 64)
    (hn : n.natAbs < 2 ^ 64) (h : nearestInt m = nearestInt n) : (m - n).natAbs ≤ 2048 := by
  have hm' := nearestWhole_near hm
  have hn' := nearestWhole_near hn
  unfold nearestInt at h
  split at h <;> split at h <;> omega

end Watchpost.Binary64
