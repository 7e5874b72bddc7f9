import Mathlib.Algebra.Group.Nat.Defs
import Watchpost.Text.Blank
import Watchpost.Text.Digits

set_option autoImplicit false

/-! # Decimal digits, written and read

A number is read from its digits alone, and two integers with one text are the same. A number filled
with zeros up to a width is written in digits only, has that width where it fits, and its digits
denote it. A run of digits in front of a text is split off again. -/

namespace Watchpost.Text

/-! ## Values of digits -/

theorem decimalValue_eq_ofDigitChars (cs : List Char) :
    decimalValue cs = Nat.ofDigitChars 10 cs 0 := by
  simp only [decimalValue, Nat.ofDigitChars_eq_foldl, Nat.mul_comm]

theorem decimalValue_decimal (n : Nat) : decimalValue (decimal n) = n := by
  rw [decimalValue_eq_ofDigitChars, decimal, Nat.toList_repr, Nat.ofDigitChars_ten_toDigits]

theorem digit_range {c : Char} (h : c.isDigit = true) : 48 ≤ c.toNat ∧ c.toNat ≤ 57 := by
  simpa [Char.isDigit, UInt32.le_iff_toNat_le] using h

theorem ofDigitChars_lt {cs : List Char} (h : ∀ c ∈ cs, c.isDigit = true) (n : Nat) :
    Nat.ofDigitChars 10 cs n < (n + 1) * 10 ^ cs.length := by
  induction cs generalizing n with
  | nil => simp
  | cons c cs ih =>
    have hc := digit_range (h c List.mem_cons_self)
    have hzero : '0'.toNat = 48 := rfl
    have hnext : 10 * n + (c.toNat - '0'.toNat) + 1 ≤ (n + 1) * 10 := by omega
    calc Nat.ofDigitChars 10 (c :: cs) n
        = Nat.ofDigitChars 10 cs (10 * n + (c.toNat - '0'.toNat)) := Nat.ofDigitChars_cons
      _ < (10 * n + (c.toNat - '0'.toNat) + 1) * 10 ^ cs.length :=
        ih (fun d hd => h d (List.mem_cons_of_mem _ hd)) _
      _ ≤ (n + 1) * 10 * 10 ^ cs.length := Nat.mul_le_mul_right _ hnext
      _ = (n + 1) * 10 ^ (c :: cs).length := by
        rw [List.length_cons, Nat.pow_succ, Nat.mul_assoc, Nat.mul_comm 10]

/-- Digits denote less than a one with as many zeros. -/
theorem decimalValue_lt {cs : List Char} (h : ∀ c ∈ cs, c.isDigit = true) :
    decimalValue cs < 10 ^ cs.length := by
  have hlt := ofDigitChars_lt h 0
  rwa [Nat.zero_add, Nat.one_mul, ← decimalValue_eq_ofDigitChars] at hlt

theorem isDigit_of_mem_decimal {n : Nat} {c : Char} (h : c ∈ decimal n) : c.isDigit = true := by
  rw [decimal, Nat.toList_repr] at h
  exact Nat.isDigit_of_mem_toDigits (by decide) (by decide) h

theorem decimal_ne_nil (n : Nat) : decimal n ≠ [] := by
  rw [decimal, Nat.toList_repr]
  exact Nat.toDigits_ne_nil

theorem length_decimal_le {n width : Nat} (hwidth : 0 < width) (h : n < 10 ^ width) :
    (decimal n).length ≤ width := by
  rw [decimal, Nat.toList_repr]
  exact (Nat.length_toDigits_le_iff (by decide) hwidth).2 h

/-! ## Read as a number -/

/-- At least one decimal digit and nothing else. -/
def IsNumeral (cs : List Char) : Prop :=
  cs ≠ [] ∧ ∀ c ∈ cs, c.isDigit = true

theorem isNumeral_decimal (n : Nat) : IsNumeral (decimal n) :=
  ⟨decimal_ne_nil n, fun _ hc => isDigit_of_mem_decimal hc⟩

theorem digitValue?_ten_eq_some_iff (c : Char) (v : Nat) :
    digitValue? 10 c = some v ↔ c.isDigit = true ∧ c.toNat - '0'.toNat = v := by
  unfold digitValue?
  by_cases hc : c.isDigit = true
  · have hlt : c.toNat - '0'.toNat < 10 := by
      have hrange := digit_range hc
      have hzero : '0'.toNat = 48 := rfl
      omega
    rw [if_pos hc, Option.filter_some, if_pos (decide_eq_true hlt)]
    simp only [hc, true_and, Option.some.injEq]
  · -- A letter counts from ten, so that it is no digit here.
    have hletter : ∀ m, ¬ (some (m + 10)).filter (fun n => decide (n < 10)) = some v := by
      intro m hm
      have hlt : v < 10 := of_decide_eq_true (Option.filter_eq_some_iff.1 hm).2
      have hv : m + 10 = v := Option.some.inj (Option.filter_eq_some_iff.1 hm).1
      omega
    rw [if_neg hc]
    simp only [hc, Bool.false_eq_true, false_and, iff_false]
    split
    · exact hletter _
    · split
      · exact hletter _
      · exact fun hnone => nomatch hnone

theorem foldl_digits_none (cs : List Char) :
    cs.foldl (fun acc c => do return (← acc) * 10 + (← digitValue? 10 c)) none = none := by
  induction cs with
  | nil => rfl
  | cons c cs ih => exact ih

/-- Gathering digits after those of `m`. -/
theorem foldl_digits_eq_some_iff (cs : List Char) (m n : Nat) :
    cs.foldl (fun acc c => do return (← acc) * 10 + (← digitValue? 10 c)) (some m) = some n ↔
      (∀ c ∈ cs, c.isDigit = true) ∧ Nat.ofDigitChars 10 cs m = n := by
  induction cs generalizing m with
  | nil => simp
  | cons c cs ih =>
    have hfirst : (do return (← some m) * 10 + (← digitValue? 10 c))
        = (digitValue? 10 c).map (m * 10 + ·) := by
      cases digitValue? 10 c <;> rfl
    rw [List.foldl_cons, hfirst, List.forall_mem_cons, Nat.ofDigitChars_cons]
    cases hv : digitValue? 10 c with
    | none =>
      have hc : ¬ c.isDigit = true := by
        intro hc
        have hsome := (digitValue?_ten_eq_some_iff c _).2 ⟨hc, rfl⟩
        rw [hv] at hsome
        cases hsome
      rw [Option.map_none, foldl_digits_none]
      simp [hc]
    | some v =>
      obtain ⟨hc, rfl⟩ := (digitValue?_ten_eq_some_iff c v).1 hv
      rw [Option.map_some, ih, Nat.mul_comm m]
      simp [hc]

theorem ofDigits?_ten_eq_some_iff (cs : List Char) (n : Nat) :
    ofDigits? 10 cs = some n ↔ (∀ c ∈ cs, c.isDigit = true) ∧ decimalValue cs = n := by
  rw [decimalValue_eq_ofDigitChars]
  exact foldl_digits_eq_some_iff cs 0 n

/-- A number is read from its digits, which may follow a plus sign. -/
theorem readUnsigned?_eq_some_iff (cs : List Char) (n : Nat) :
    readUnsigned? cs = some n ↔
      ∃ digits, (cs = digits ∨ cs = '+' :: digits) ∧ IsNumeral digits ∧
        decimalValue digits = n := by
  have hread : ∀ digits : List Char,
      (if digits.isEmpty then none else ofDigits? 10 digits) = some n ↔
        IsNumeral digits ∧ decimalValue digits = n := by
    intro digits
    by_cases hempty : digits = []
    · simp [hempty, IsNumeral]
    · rw [if_neg (by simpa using hempty), ofDigits?_ten_eq_some_iff]
      simp [IsNumeral, hempty]
  unfold readUnsigned?
  dsimp only
  split
  · next rest =>
    rw [hread]
    constructor
    · intro h
      exact ⟨rest, .inr rfl, h⟩
    · rintro ⟨digits, hplain | hsigned, h⟩
      · -- A plus sign is no digit.
        exact absurd (h.1.2 '+' (hplain ▸ List.mem_cons_self)) (by decide)
      · rw [List.cons.injEq] at hsigned
        exact hsigned.2 ▸ h
  · next hunsigned =>
    rw [hread]
    constructor
    · intro h
      exact ⟨cs, .inl rfl, h⟩
    · rintro ⟨digits, rfl | hsigned, h⟩
      · exact h
      · exact absurd hsigned (hunsigned digits)

theorem readWord?_eq_some_iff (width : Nat) (cs : List Char) (n : Nat) :
    readWord? width cs = some n ↔
      ∃ digits, (cs = digits ∨ cs = '+' :: digits) ∧ IsNumeral digits ∧
        decimalValue digits = n ∧ n < 2 ^ width := by
  unfold readWord?
  rw [Option.filter_eq_some_iff, readUnsigned?_eq_some_iff, Nat.pow_eq, decide_eq_true_eq]
  constructor
  · rintro ⟨⟨digits, hcs, hdigits, hvalue⟩, hlt⟩
    exact ⟨digits, hcs, hdigits, hvalue, hlt⟩
  · rintro ⟨digits, hcs, hdigits, hvalue, hlt⟩
    exact ⟨⟨digits, hcs, hdigits, hvalue⟩, hlt⟩

/-! ## Signed numbers -/

theorem decimal_injective {m n : Nat} (h : decimal m = decimal n) : m = n := by
  rw [← decimalValue_decimal m, h, decimalValue_decimal]

theorem decimal_ne_minus (n : Nat) (rest : List Char) : decimal n ≠ '-' :: rest := by
  intro h
  have hdigit : '-'.isDigit = true := isDigit_of_mem_decimal (h ▸ List.mem_cons_self)
  exact absurd hdigit (by decide)

theorem signedDecimal_injective {m n : Int} (h : signedDecimal m = signedDecimal n) :
    m = n := by
  cases m with
  | ofNat m =>
    cases n with
    | ofNat n => exact congrArg Int.ofNat (decimal_injective h)
    | negSucc n => exact absurd h (decimal_ne_minus m _)
  | negSucc m =>
    cases n with
    | ofNat n => exact absurd h.symm (decimal_ne_minus n _)
    | negSucc n =>
      have hdigits : '-' :: decimal (m + 1) = '-' :: decimal (n + 1) := h
      rw [List.cons.injEq] at hdigits
      exact congrArg Int.negSucc (Nat.succ.inj (decimal_injective hdigits.2))

theorem of_mem_signedDecimal {n : Int} {c : Char} (h : c ∈ signedDecimal n) :
    c.isDigit = true ∨ c = '-' := by
  cases n with
  | ofNat n => exact .inl (isDigit_of_mem_decimal h)
  | negSucc n =>
    rcases List.mem_cons.1 h with hminus | hdigit
    · exact .inr hminus
    · exact .inl (isDigit_of_mem_decimal hdigit)

/-! ## Filled up with zeros -/

theorem decimalValue_replicate_append (k : Nat) (cs : List Char) :
    decimalValue (List.replicate k '0' ++ cs) = decimalValue cs := by
  rw [decimalValue_eq_ofDigitChars, Nat.ofDigitChars_append, Nat.ofDigitChars_replicate_zero,
    Nat.mul_zero, decimalValue_eq_ofDigitChars]

theorem decimalValue_append_replicate (cs : List Char) (k : Nat) :
    decimalValue (cs ++ List.replicate k '0') = decimalValue cs * 10 ^ k := by
  rw [decimalValue_eq_ofDigitChars, Nat.ofDigitChars_append, Nat.ofDigitChars_replicate_zero,
    Nat.mul_comm, decimalValue_eq_ofDigitChars]

theorem isDigit_of_mem_zeros {k : Nat} {c : Char} (h : c ∈ List.replicate k '0') :
    c.isDigit = true := by
  rw [List.eq_of_mem_replicate h]
  rfl

theorem decimalValue_paddedDecimal (width n : Nat) : decimalValue (paddedDecimal width n) = n := by
  rw [paddedDecimal, padLeft, decimalValue_replicate_append, decimalValue_decimal]

theorem isDigit_of_mem_paddedDecimal {width n : Nat} {c : Char} (h : c ∈ paddedDecimal width n) :
    c.isDigit = true := by
  rcases List.mem_append.1 h with hzero | hdigit
  · exact isDigit_of_mem_zeros hzero
  · exact isDigit_of_mem_decimal hdigit

theorem paddedDecimal_ne_nil (width n : Nat) : paddedDecimal width n ≠ [] :=
  List.append_ne_nil_of_right_ne_nil _ (decimal_ne_nil n)

theorem isEmpty_paddedDecimal (width n : Nat) : (paddedDecimal width n).isEmpty = false :=
  List.isEmpty_eq_false_iff.2 (paddedDecimal_ne_nil width n)

theorem length_paddedDecimal {width n : Nat} (hwidth : 0 < width) (h : n < 10 ^ width) :
    (paddedDecimal width n).length = width := by
  have hle := length_decimal_le hwidth h
  rw [paddedDecimal, padLeft, List.length_append, List.length_replicate]
  omega

/-! ## In front of a text -/

/-- A digit is no blank, so that nothing is trimmed before it. -/
theorem trimStart_of_isDigit {c : Char} {cs : List Char} (h : c.isDigit = true) :
    trimStart (c :: cs) = c :: cs := by
  have hblank : isBlank c = false := by
    have hrange := digit_range h
    simp only [isBlank, Bool.or_eq_false_iff, Bool.and_eq_false_iff, decide_eq_false_iff_not,
      beq_eq_false_iff_ne]
    omega
  rw [trimStart, List.dropWhile_cons_of_neg (by simp [hblank])]

theorem digitsPrefix_eq_self {ds : List Char} (hds : ∀ c ∈ ds, c.isDigit = true) :
    digitsPrefix ds = (ds, []) := by
  rw [← List.append_nil ds, digitsPrefix, List.takeWhile_append_of_pos hds,
    List.dropWhile_append_of_pos hds]
  rfl

/-- A run of digits ends before a character that is none, whatever was read so far. -/
theorem digitsPrefix_append_cons {c : Char} (hc : c.isDigit = false) (cs rest : List Char) :
    digitsPrefix (cs ++ c :: rest) = ((digitsPrefix cs).1, (digitsPrefix cs).2 ++ c :: rest) := by
  induction cs with
  | nil => simp [digitsPrefix, hc]
  | cons d cs ih =>
    simp only [digitsPrefix, Prod.mk.injEq] at ih
    cases hd : d.isDigit with
    | false => simp [digitsPrefix, hd]
    | true => simp [digitsPrefix, hd, ih.1, ih.2]

theorem digitsPrefix_append {ds : List Char} (hds : ∀ c ∈ ds, c.isDigit = true) {c : Char}
    (hc : c.isDigit = false) (rest : List Char) :
    digitsPrefix (ds ++ c :: rest) = (ds, c :: rest) := by
  rw [digitsPrefix_append_cons hc, digitsPrefix_eq_self hds, List.nil_append]

/-- A run of digits is split off whatever follows it, if that does not start with a digit. -/
theorem digitsPrefix_append_of_head? {ds rest : List Char} (hds : ∀ c ∈ ds, c.isDigit = true)
    (hrest : ∀ c ∈ rest.head?, c.isDigit = false) : digitsPrefix (ds ++ rest) = (ds, rest) := by
  cases rest with
  | nil => rw [List.append_nil, digitsPrefix_eq_self hds]
  | cons c rest => exact digitsPrefix_append hds (hrest c rfl) rest

theorem digitsPrefix_suffix (cs : List Char) : (digitsPrefix cs).2 <:+ cs :=
  List.dropWhile_suffix _

end Watchpost.Text
