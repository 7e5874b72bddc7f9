import Watchpost.Instant

set_option autoImplicit false

/-! # The order of instants

Instants are ordered by their seconds, and within a second by their nanoseconds, so that a leap
second comes after the second before it. Outside leap seconds this is the order of
`Instant.sinceEpoch`, and distances are differences: they add up, and grow with the later end. -/

namespace Watchpost.Instant

/-- One instant is not later than another. -/
instance : LE Instant where
  le a b := a.seconds < b.seconds ∨ a.seconds = b.seconds ∧ a.nanos ≤ b.nanos

instance (a b : Instant) : Decidable (a ≤ b) :=
  inferInstanceAs (Decidable (_ ∨ _))

theorem le_def (a b : Instant) :
    a ≤ b ↔ a.seconds < b.seconds ∨ a.seconds = b.seconds ∧ a.nanos ≤ b.nanos :=
  Iff.rfl

protected theorem le_refl (a : Instant) : a ≤ a := by
  simp [le_def]

protected theorem le_trans {a b c : Instant} (hab : a ≤ b) (hbc : b ≤ c) : a ≤ c := by
  simp only [le_def] at *
  omega

/-- An instant outside leap seconds. -/
def IsRegular (t : Instant) : Prop :=
  t.nanos < 1000000000

instance (t : Instant) : Decidable t.IsRegular :=
  inferInstanceAs (Decidable (_ < _))

theorem IsRegular.isLeap {t : Instant} (h : t.IsRegular) : t.isLeap = false := by
  have : ¬ 1000000000 ≤ t.nanos := Nat.not_le.2 h
  simp [Instant.isLeap, this]

theorem since_eq {a b : Instant} (ha : a.IsRegular) (hb : b.IsRegular) :
    b.since a = b.sinceEpoch - a.sinceEpoch := by
  simp [since, leapBetween, ha.isLeap, hb.isLeap]

theorem sinceEpoch_le {a b : Instant} (ha : a.IsRegular) (h : a ≤ b) :
    a.sinceEpoch ≤ b.sinceEpoch := by
  simp only [le_def, IsRegular, sinceEpoch] at *
  omega

theorem since_self (a : Instant) : a.since a = 0 := by
  simp [since, leapBetween]

/-- The distance from an earlier instant is the longer one. -/
theorem since_le_since_left {a b c : Instant} (ha : a.IsRegular) (hb : b.IsRegular)
    (hc : c.IsRegular) (h : a ≤ b) : c.since b ≤ c.since a := by
  have := sinceEpoch_le ha h
  rw [since_eq ha hc, since_eq hb hc]
  omega

/-- The distance to a later instant is the longer one. -/
theorem since_le_since_right {a b c : Instant} (ha : a.IsRegular) (hb : b.IsRegular)
    (hc : c.IsRegular) (h : b ≤ c) : b.since a ≤ c.since a := by
  have := sinceEpoch_le hb h
  rw [since_eq ha hb, since_eq ha hc]
  omega

end Watchpost.Instant
