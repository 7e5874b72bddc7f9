import Mathlib.Algebra.Group.Nat.Defs
import Watchpost.Matching
import Watchpost.Proofs.Number.Rounding

set_option autoImplicit false

/-! # Comparing numbers

Every number of a document is compared as a double, also where both are integers. So all operators
follow one order, that of the `weight` of numbers; no NaN is among the doubles of a document. The
price is paid by integers of more than 53 binary digits: two of them are equal if they are rounded
to the same double. -/

namespace Watchpost

open Binary64 (nearestInt)

/-! ## Numbers and their weights -/

namespace Json.Number

/-- The value of the double of a number, in units of the smallest double. -/
def weight (n : Number) : Int :=
  n.toDouble.scaled

theorem isNaN_toDouble (n : Number) : n.toDouble.isNaN = false := by
  cases n with
  | integer n _ => exact Binary64.isNaN_ofInt n
  | double x finite => exact Binary64.isNaN_of_isFinite finite

variable (a b : Number)

theorem equals_toDouble : a.toDouble.equals b.toDouble = decide (a.weight = b.weight) := by
  unfold Binary64.equals
  rw [isNaN_toDouble a, isNaN_toDouble b]
  rfl

theorem lessThan_toDouble : a.toDouble.lessThan b.toDouble = decide (a.weight < b.weight) := by
  unfold Binary64.lessThan
  rw [isNaN_toDouble a, isNaN_toDouble b]
  rfl

theorem atMost_toDouble : a.toDouble.atMost b.toDouble = decide (a.weight ≤ b.weight) := by
  unfold Binary64.atMost
  rw [isNaN_toDouble a, isNaN_toDouble b]
  rfl

end Json.Number

namespace Rule.Operator

/-! ## One order for all operators -/

section

variable (a b c : Json.Number)

/-- Whether an operator holds of a field with the number `a` and the literal `b`. -/
def Relates (op : Operator) (a b : Json.Number) : Prop :=
  op.holds (some (.number a)) (.number b) = true

theorem relates_eq_iff : eq.Relates a b ↔ a.weight = b.weight := by
  show a.toDouble.equals b.toDouble = true ↔ _
  rw [Json.Number.equals_toDouble, decide_eq_true_iff]

theorem relates_neq_iff : neq.Relates a b ↔ a.weight ≠ b.weight := by
  show (!a.toDouble.equals b.toDouble) = true ↔ _
  rw [Json.Number.equals_toDouble, Bool.not_eq_true', decide_eq_false_iff_not]

theorem relates_lt_iff : lt.Relates a b ↔ a.weight < b.weight := by
  show a.toDouble.lessThan b.toDouble = true ↔ _
  rw [Json.Number.lessThan_toDouble, decide_eq_true_iff]

theorem relates_gt_iff : gt.Relates a b ↔ b.weight < a.weight := by
  show b.toDouble.lessThan a.toDouble = true ↔ _
  rw [Json.Number.lessThan_toDouble, decide_eq_true_iff]

theorem relates_lte_iff : lte.Relates a b ↔ a.weight ≤ b.weight := by
  show a.toDouble.atMost b.toDouble = true ↔ _
  rw [Json.Number.atMost_toDouble, decide_eq_true_iff]

theorem relates_gte_iff : gte.Relates a b ↔ b.weight ≤ a.weight := by
  show b.toDouble.atMost a.toDouble = true ↔ _
  rw [Json.Number.atMost_toDouble, decide_eq_true_iff]

/-- What it means for the operators to follow one order on three numbers. -/
structure FollowOneOrder (a b c : Json.Number) : Prop where
  /-- Exactly one of less, equal and greater holds. -/
  trichotomy : (lt.Relates a b ∧ ¬eq.Relates a b ∧ ¬gt.Relates a b) ∨
    (¬lt.Relates a b ∧ eq.Relates a b ∧ ¬gt.Relates a b) ∨
    (¬lt.Relates a b ∧ ¬eq.Relates a b ∧ gt.Relates a b)
  gte_iff : gte.Relates a b ↔ gt.Relates a b ∨ eq.Relates a b
  lte_iff : lte.Relates a b ↔ lt.Relates a b ∨ eq.Relates a b
  lt_trans : lt.Relates a b → lt.Relates b c → lt.Relates a c
  eq_trans : eq.Relates a b → eq.Relates b c → eq.Relates a c
  lt_congr_left : eq.Relates a b → (lt.Relates a c ↔ lt.Relates b c)
  lt_congr_right : eq.Relates a b → (lt.Relates c a ↔ lt.Relates c b)

/-- **The operators on numbers follow one order.** Of any two numbers, integers or doubles in any
    mix, exactly one is less than, equal to or greater than the other; the operators that admit
    equality are the unions of the strict ones with it; being less is transitive, and equal numbers
    stand in the same relations to all others. -/
theorem numbers_follow_one_order : FollowOneOrder a b c := by
  constructor
  case trichotomy =>
    rw [relates_lt_iff, relates_eq_iff, relates_gt_iff]
    omega
  case gte_iff =>
    rw [relates_gte_iff, relates_gt_iff, relates_eq_iff]
    omega
  case lte_iff =>
    rw [relates_lte_iff, relates_lt_iff, relates_eq_iff]
    omega
  case lt_trans =>
    rw [relates_lt_iff, relates_lt_iff, relates_lt_iff]
    exact Int.lt_trans
  case eq_trans =>
    rw [relates_eq_iff, relates_eq_iff, relates_eq_iff]
    exact Eq.trans
  case lt_congr_left =>
    rw [relates_eq_iff, relates_lt_iff, relates_lt_iff]
    intro h
    rw [h]
  case lt_congr_right =>
    rw [relates_eq_iff, relates_lt_iff, relates_lt_iff]
    intro h
    rw [h]

end

end Rule.Operator

/-! ## Integers -/

namespace Json

/-- An integer that a document can hold: a signed or an unsigned word. -/
def IsWord (n : Int) : Prop :=
  -9223372036854775808 ≤ n ∧ n < 18446744073709551616

instance (n : Int) : Decidable (IsWord n) :=
  inferInstanceAs (Decidable (_ ∧ _))

theorem IsWord.natAbs_lt {n : Int} (h : IsWord n) : n.natAbs < 2 ^ 64 := by
  obtain ⟨hlow, hhigh⟩ := h
  omega

theorem ofInt_of_isWord {n : Int} (h : IsWord n) : ofInt n = .number (.integer n h) := by
  have hnumber : Number.ofInt? n = some (.integer n h) := dif_pos h
  unfold ofInt
  rw [hnumber]

/-- Integers weigh the same exactly if they are rounded to the same double. -/
theorem weight_integer_eq_iff {a b : Int} (ha : IsWord a) (hb : IsWord b) :
    (Number.integer a ha).weight = (Number.integer b hb).weight ↔ nearestInt a = nearestInt b :=
  Binary64.scaled_ofInt_eq_iff ha.natAbs_lt hb.natAbs_lt

end Json

namespace Rule.Operator

open Json (IsWord)

/-- What equality of a field with the integer `a` and the literal `b` comes to. -/
structure EqualAsRounded (a b : Int) : Prop where
  eq_iff : eq.holds (some (.ofInt a)) (.ofInt b) = true ↔ nearestInt a = nearestInt b
  neq_iff : neq.holds (some (.ofInt a)) (.ofInt b) = true ↔ nearestInt a ≠ nearestInt b
  /-- Equal integers are never told apart. -/
  of_eq : a = b → eq.holds (some (.ofInt a)) (.ofInt b) = true
  /-- With one of the two below `2 ^ 53` in magnitude, equality is exact. -/
  eq_iff_of_lt : a.natAbs < 2 ^ 53 ∨ b.natAbs < 2 ^ 53 →
    (eq.holds (some (.ofInt a)) (.ofInt b) = true ↔ a = b)
  /-- Different integers that pass for equal are close to each other. -/
  near_of_eq : eq.holds (some (.ofInt a)) (.ofInt b) = true → (a - b).natAbs ≤ 2048

theorem equalAsRounded {a b : Int} (ha : IsWord a) (hb : IsWord b) : EqualAsRounded a b := by
  have heq : eq.holds (some (.ofInt a)) (.ofInt b) = true ↔ nearestInt a = nearestInt b := by
    rw [Json.ofInt_of_isWord ha, Json.ofInt_of_isWord hb]
    exact (relates_eq_iff _ _).trans (Json.weight_integer_eq_iff ha hb)
  have hneq : neq.holds (some (.ofInt a)) (.ofInt b) = true ↔ nearestInt a ≠ nearestInt b := by
    rw [Json.ofInt_of_isWord ha, Json.ofInt_of_isWord hb]
    exact (relates_neq_iff _ _).trans (not_congr (Json.weight_integer_eq_iff ha hb))
  constructor
  case eq_iff => exact heq
  case neq_iff => exact hneq
  case of_eq => exact fun h => heq.2 (congrArg nearestInt h)
  case eq_iff_of_lt =>
    rintro (hlt | hlt)
    · exact heq.trans (Binary64.nearestInt_eq_iff_of_lt hlt)
    · exact heq.trans (eq_comm.trans ((Binary64.nearestInt_eq_iff_of_lt hlt).trans eq_comm))
  case near_of_eq =>
    intro h
    exact Binary64.natAbs_sub_le_of_nearestInt_eq ha.natAbs_lt hb.natAbs_lt (heq.1 h)

/-- A value is in a list exactly if it equals one of its items. -/
theorem holds_isIn_iff (value : Json) (items : List Json) :
    isIn.holds (some value) (.array items) = true ↔
      ∃ item ∈ items, eq.holds (some value) item = true := by
  show items.any (value.sameScalar ·) = true ↔ _
  exact List.any_eq_true

/-- **Equality of integers is equality of their doubles.** Two integers of a document are equal
    exactly if they are rounded to the same double, and an integer is in a list exactly if it is
    rounded like one of its items. So no integer is told apart from itself, integers below `2 ^ 53`
    in magnitude are told apart from all others, and larger ones from all that are more than 2048
    away. -/
theorem integers_equal_as_rounded {a : Int} {bs : List Int} (ha : IsWord a)
    (hbs : ∀ b ∈ bs, IsWord b) :
    (∀ b ∈ bs, EqualAsRounded a b) ∧
      (isIn.holds (some (.ofInt a)) (.array (bs.map .ofInt)) = true ↔
        ∃ b ∈ bs, nearestInt a = nearestInt b) ∧
      (a.natAbs < 2 ^ 53 →
        (isIn.holds (some (.ofInt a)) (.array (bs.map .ofInt)) = true ↔ a ∈ bs)) := by
  have hpairs : ∀ b ∈ bs, EqualAsRounded a b := fun b hb => equalAsRounded ha (hbs b hb)
  have hisIn : isIn.holds (some (.ofInt a)) (.array (bs.map .ofInt)) = true ↔
      ∃ b ∈ bs, nearestInt a = nearestInt b := by
    rw [holds_isIn_iff]
    constructor
    · rintro ⟨item, hitem, h⟩
      obtain ⟨b, hb, rfl⟩ := List.mem_map.1 hitem
      exact ⟨b, hb, (hpairs b hb).eq_iff.1 h⟩
    · rintro ⟨b, hb, h⟩
      exact ⟨.ofInt b, List.mem_map_of_mem hb, (hpairs b hb).eq_iff.2 h⟩
  refine ⟨hpairs, hisIn, fun hlt => hisIn.trans ⟨?_, fun h => ⟨a, h, rfl⟩⟩⟩
  rintro ⟨b, hb, h⟩
  rwa [(Binary64.nearestInt_eq_iff_of_lt hlt).1 h]

/-- The integer after `2 ^ 53` passes for `2 ^ 53`, alone and in a list, but not for its other
    neighbour. -/
theorem integers_equal_as_rounded_beyond_digits :
    IsWord 9007199254740993 ∧ (∀ b ∈ [9007199254740994, 9007199254740992], IsWord b) ∧
      eq.holds (some (.ofInt 9007199254740993)) (.ofInt 9007199254740992) = true ∧
      neq.holds (some (.ofInt 9007199254740993)) (.ofInt 9007199254740994) = true ∧
      isIn.holds (some (.ofInt 9007199254740993))
        (.array ([9007199254740994, 9007199254740992].map .ofInt)) = true := by
  have ha : IsWord 9007199254740993 := by decide
  have hbs : ∀ b ∈ [9007199254740994, 9007199254740992], IsWord b := by decide
  obtain ⟨hpairs, hisIn, -⟩ := integers_equal_as_rounded ha hbs
  refine ⟨ha, hbs, ?_, ?_, ?_⟩
  · exact (hpairs 9007199254740992 (by decide)).eq_iff.2 (by decide +kernel)
  · exact (hpairs 9007199254740994 (by decide)).neq_iff.2 (by decide +kernel)
  · exact hisIn.2 ⟨9007199254740992, by decide, by decide +kernel⟩

/-- Equality of integers is not exact: `2 ^ 53 + 1` passes for `2 ^ 53`. -/
theorem integers_not_equal_exactly :
    ¬∀ a b : Int, IsWord a → IsWord b →
      (eq.holds (some (.ofInt a)) (.ofInt b) = true ↔ a = b) := by
  intro h
  have hequal : eq.holds (some (.ofInt 9007199254740993)) (.ofInt 9007199254740992) = true := by
    decide +kernel
  have hsame := (h 9007199254740993 9007199254740992 (by decide) (by decide)).1 hequal
  omega

end Rule.Operator

end Watchpost
