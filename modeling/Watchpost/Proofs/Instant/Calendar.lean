import Watchpost.Instant

set_option autoImplicit false

/-! # Days and dates

`Date.ofDays` counts in years that start on 1 March, so that a leap day is the last of its year.
Four hundred such years make an era. A day of an era is found by its century, its four years within
the century, its year within those and its day within the year; the quotients of `Date.ofDays`
amount to this. So every count of days is that of its date, and the date exists. -/

namespace Watchpost.Instant

/-! ## Years that start in March -/

/-- The days from 1 January 1970 to 1 March of a year. -/
def daysToMarch (year : Int) : Int :=
  year / 400 * 146097 + (year % 400 * 365 + year % 400 / 4 - year % 400 / 100) - 719468

/-- The date of a day in the year that starts on 1 March of the given one. -/
def Date.ofMarch (year dayOfYear : Int) : Date :=
  let m := (5 * dayOfYear + 2) / 153
  let month := if m < 10 then m + 3 else m - 9
  ⟨if month ≤ 2 then year + 1 else year, month.toNat, (dayOfYear - (153 * m + 2) / 5 + 1).toNat⟩

/-- A day that the year starting on 1 March of the given one has. -/
structure IsDayOfYear (year dayOfYear : Int) : Prop where
  nonneg : 0 ≤ dayOfYear
  le : dayOfYear ≤ 365
  isLeap : dayOfYear = 365 → isLeapYear (year + 1) = true

/-- A day of an era as a day of a year. A year is `100 * century + 4 * group + rest`; its last day
    is a leap day, which only the last year of a group has, and not the last group of a century but
    the last. -/
theorem exists_day_of_era {dayOfEra : Int} (h0 : 0 ≤ dayOfEra) (h : dayOfEra < 146097) :
    ∃ century group rest day : Int, (0 ≤ century ∧ century ≤ 3) ∧ (0 ≤ group ∧ group ≤ 24) ∧
      (0 ≤ rest ∧ rest ≤ 3) ∧ (0 ≤ day ∧ day ≤ 365) ∧
      (day = 365 → rest = 3 ∧ (group = 24 → century = 3)) ∧
      dayOfEra = 36524 * century + 1461 * group + 365 * rest + day := by
  obtain ⟨century, hcentury, dayOfCentury, hday⟩ : ∃ c : Int, (0 ≤ c ∧ c ≤ 3) ∧ ∃ d : Int,
      dayOfEra = 36524 * c + d ∧ 0 ≤ d ∧ d ≤ 36524 ∧ (d = 36524 → c = 3) :=
    ⟨min (dayOfEra / 36524) 3, by omega, dayOfEra - 36524 * min (dayOfEra / 36524) 3, by omega⟩
  obtain ⟨group, hgroup, dayOfGroup, hday'⟩ : ∃ g : Int, (0 ≤ g ∧ g ≤ 24) ∧ ∃ d : Int,
      dayOfCentury = 1461 * g + d ∧ 0 ≤ d ∧ d ≤ 1460 ∧ (d = 1460 ∧ g = 24 → century = 3) :=
    ⟨dayOfCentury / 1461, by omega, dayOfCentury % 1461, by omega⟩
  obtain ⟨rest, hrest, day, hday''⟩ : ∃ r : Int, (0 ≤ r ∧ r ≤ 3) ∧ ∃ d : Int,
      dayOfGroup = 365 * r + d ∧ 0 ≤ d ∧ d ≤ 365 ∧ (d = 365 → r = 3) :=
    ⟨min (dayOfGroup / 365) 3, by omega, dayOfGroup - 365 * min (dayOfGroup / 365) 3, by omega⟩
  exact ⟨century, group, rest, day, hcentury, hgroup, hrest, by omega, by omega, by omega⟩

section

variable {dayOfEra century group rest day : Int}

theorem correction_eq (hcentury : 0 ≤ century ∧ century ≤ 3) (hgroup : 0 ≤ group ∧ group ≤ 24)
    (hrest : 0 ≤ rest ∧ rest ≤ 3) (hday : 0 ≤ day ∧ day ≤ 365)
    (hleap : day = 365 → rest = 3 ∧ (group = 24 → century = 3))
    (h : dayOfEra = 36524 * century + 1461 * group + 365 * rest + day) :
    dayOfEra / 36524 - dayOfEra / 146096 = century := by
  have hcenturies : dayOfEra / 36524 =
      century + (1461 * group + 365 * rest + day) / 36524 := by omega
  by_cases hend : 1461 * group + 365 * rest + day = 36524
  · -- Only the last day of an era is a day beyond the length of its century.
    have : century = 3 := by omega
    omega
  · have hlt : 1461 * group + 365 * rest + day < 36524 := by omega
    rw [Int.ediv_eq_zero_of_lt (by omega) hlt] at hcenturies
    omega

/-- The quotient that gives the year of an era makes up for the leap days before a day. -/
theorem yearOfEra_eq (hcentury : 0 ≤ century ∧ century ≤ 3) (hgroup : 0 ≤ group ∧ group ≤ 24)
    (hrest : 0 ≤ rest ∧ rest ≤ 3) (hday : 0 ≤ day ∧ day ≤ 365)
    (hleap : day = 365 → rest = 3 ∧ (group = 24 → century = 3))
    (h : dayOfEra = 36524 * century + 1461 * group + 365 * rest + day) :
    (dayOfEra - dayOfEra / 1460 + dayOfEra / 36524 - dayOfEra / 146096) / 365 =
      100 * century + 4 * group + rest := by
  have hcorrection := correction_eq hcentury hgroup hrest hday hleap h
  have hgroups : dayOfEra / 1460 = 25 * century + group +
      (24 * century + group + 365 * rest + day) / 1460 := by omega
  have hday' : 0 ≤ day - (24 * century + group + 365 * rest + day) / 1460 ∧
      day - (24 * century + group + 365 * rest + day) / 1460 ≤ 364 := by omega
  generalize (24 * century + group + 365 * rest + day) / 1460 = early at hgroups hday'
  generalize dayOfEra / 36524 = centuries at hcorrection ⊢
  generalize dayOfEra / 146096 = eras at hcorrection ⊢
  generalize dayOfEra / 1460 = groups at hgroups ⊢
  omega

theorem dayOfYear_eq (hgroup : 0 ≤ group ∧ group ≤ 24) (hrest : 0 ≤ rest ∧ rest ≤ 3)
    (h : dayOfEra = 36524 * century + 1461 * group + 365 * rest + day) :
    dayOfEra - (365 * (100 * century + 4 * group + rest) +
      (100 * century + 4 * group + rest) / 4 - (100 * century + 4 * group + rest) / 100) = day := by
  omega

theorem isDayOfYear_of_era (era : Int) (hgroup : 0 ≤ group ∧ group ≤ 24)
    (hday : 0 ≤ day ∧ day ≤ 365) (hleap : day = 365 → rest = 3 ∧ (group = 24 → century = 3)) :
    IsDayOfYear (100 * century + 4 * group + rest + era * 400) day := by
  refine ⟨hday.1, hday.2, fun hlast => ?_⟩
  obtain ⟨rfl, hcentury⟩ := hleap hlast
  clear hleap
  simp only [isLeapYear, Bool.and_eq_true, Bool.or_eq_true, beq_iff_eq, bne_iff_ne]
  omega

theorem daysToMarch_eq (era : Int) (hcentury : 0 ≤ century ∧ century ≤ 3)
    (hgroup : 0 ≤ group ∧ group ≤ 24) (hrest : 0 ≤ rest ∧ rest ≤ 3) :
    daysToMarch (100 * century + 4 * group + rest + era * 400) =
      era * 146097 + (36524 * century + 1461 * group + 365 * rest) - 719468 := by
  unfold daysToMarch
  omega

end

/-- Every day is a day of one of these years. -/
theorem exists_ofMarch (days : Int) :
    ∃ year day, IsDayOfYear year day ∧ days = daysToMarch year + day ∧
      Date.ofDays days = Date.ofMarch year day := by
  obtain ⟨era, hera⟩ : ∃ era, (days + 719468) / 146097 = era := ⟨_, rfl⟩
  obtain ⟨dayOfEra, hdayOfEra⟩ : ∃ day, (days + 719468) % 146097 = day := ⟨_, rfl⟩
  have h0 : 0 ≤ dayOfEra := hdayOfEra ▸ Int.emod_nonneg _ (by decide)
  have h1 : dayOfEra < 146097 := hdayOfEra ▸ Int.emod_lt_of_pos _ (by decide)
  obtain ⟨century, group, rest, day, hcentury, hgroup, hrest, hday, hleap, heq⟩ :=
    exists_day_of_era h0 h1
  have hdays : days = daysToMarch (100 * century + 4 * group + rest + era * 400) + day := by
    rw [daysToMarch_eq era hcentury hgroup hrest]
    omega
  have hyear := yearOfEra_eq hcentury hgroup hrest hday hleap heq
  have hdayOfYear := dayOfYear_eq hgroup hrest heq
  refine ⟨_, day, isDayOfYear_of_era era hgroup hday hleap, hdays, ?_⟩
  simp only [Date.ofDays, Date.ofMarch, hera, hdayOfEra, hyear, hdayOfYear]

/-! ## Dates -/

/-- A day of a year as a day of a month, the months counted from March. -/
theorem exists_month (year : Int) {day : Int} (h0 : 0 ≤ day) (h1 : day ≤ 365) :
    ∃ m d : Nat, m ≤ 11 ∧ day = ((153 * m + 2) / 5 + d : Nat) ∧
      (153 * m + 2) / 5 + d < (153 * (m + 1) + 2) / 5 ∧
      Date.ofMarch year day
        = if m < 10 then ⟨year, m + 3, d + 1⟩ else ⟨year + 1, m - 9, d + 1⟩ := by
  obtain ⟨m, hm⟩ : ∃ m : Nat, (5 * day + 2) / 153 = m := ⟨((5 * day + 2) / 153).toNat, by omega⟩
  obtain ⟨d, hd⟩ : ∃ d : Nat, day = ((153 * m + 2) / 5 + d : Nat) :=
    ⟨(day - (153 * m + 2) / 5).toNat, by omega⟩
  refine ⟨m, d, by omega, hd, by omega, ?_⟩
  have hday : (day - (153 * (m : Int) + 2) / 5 + 1).toNat = d + 1 := by omega
  simp only [Date.ofMarch, hm, hday]
  clear hm hday
  by_cases hlt : m < 10
  · have hm : (m : Int) < 10 := by omega
    have hmonth : ¬ (m : Int) + 3 ≤ 2 := by omega
    have htoNat : ((m : Int) + 3).toNat = m + 3 := by omega
    rw [if_pos hlt, if_pos hm, if_neg hmonth, htoNat]
  · have hm : ¬ (m : Int) < 10 := by omega
    have hmonth : (m : Int) - 9 ≤ 2 := by omega
    have htoNat : ((m : Int) - 9).toNat = m - 9 := by omega
    rw [if_neg hlt, if_neg hm, if_pos hmonth, htoNat]

theorem IsDayOfYear.toDays_ofMarch {year day : Int} (h : IsDayOfYear year day) :
    (Date.ofMarch year day).toDays = daysToMarch year + day := by
  obtain ⟨m, d, hle, hday, -, hdate⟩ := exists_month year h.nonneg h.le
  rw [hdate]
  by_cases hlt : m < 10
  · have hmonth : ¬ m + 3 ≤ 2 := by omega
    have hm : ((m + 3 : Nat) + 9 : Int) % 12 = m := by omega
    simp only [if_pos hlt, Date.toDays, if_neg hmonth, hm, daysToMarch]
    omega
  · have hmonth : m - 9 ≤ 2 := by omega
    have hm : ((m - 9 : Nat) + 9 : Int) % 12 = m := by omega
    simp only [if_neg hlt, Date.toDays, if_pos hmonth, hm, daysToMarch, Int.add_sub_cancel]
    omega

/-- A date that the calendar has. -/
structure Date.Exists (date : Date) : Prop where
  month_pos : 1 ≤ date.month
  month_le : date.month ≤ 12
  day_pos : 1 ≤ date.day
  day_le : date.day ≤ daysInMonth date.year date.month

theorem daysInMonth_le (year : Int) (month : Nat) : daysInMonth year month ≤ 31 := by
  unfold daysInMonth
  split
  · split <;> decide
  · decide
  · decide
  · decide
  · decide
  · decide

theorem IsDayOfYear.exists_ofMarch {year day : Int} (h : IsDayOfYear year day) :
    (Date.ofMarch year day).Exists := by
  obtain ⟨m, d, hle, hday, hlt, hdate⟩ := exists_month year h.nonneg h.le
  rw [hdate]
  by_cases hm : m < 10
  · have hday_le : d + 1 ≤ daysInMonth year (m + 3) := by
      unfold daysInMonth
      split <;> omega
    have hmonth : m + 3 ≤ 12 := by omega
    rw [if_pos hm]
    exact ⟨Nat.le_add_left .., hmonth, Nat.le_add_left .., hday_le⟩
  · have hday_le : d + 1 ≤ daysInMonth (year + 1) (m - 9) := by
      obtain rfl | rfl : m = 10 ∨ m = 11 := by omega
      · change d + 1 ≤ 31
        omega
      · -- The month is February; it has a 29th where the year has a last day beyond 365.
        have hend := h.le
        by_cases hyear : isLeapYear (year + 1) = true
        · have hfeb : daysInMonth (year + 1) 2 = 29 := if_pos hyear
          change d + 1 ≤ daysInMonth (year + 1) 2
          omega
        · have hfeb : daysInMonth (year + 1) 2 = 28 := if_neg hyear
          have hlast : day ≠ 365 := fun hlast => hyear (h.isLeap hlast)
          change d + 1 ≤ daysInMonth (year + 1) 2
          omega
    have hmonth : 1 ≤ m - 9 ∧ m - 9 ≤ 12 := by omega
    rw [if_neg hm]
    exact ⟨hmonth.1, hmonth.2, Nat.le_add_left .., hday_le⟩

/-! ## Counts of days -/

/-- **Every day has a date.** Its count of days is the one of its date. -/
theorem toDays_ofDays (days : Int) : (Date.ofDays days).toDays = days := by
  obtain ⟨year, day, hday, hdays, hdate⟩ := exists_ofMarch days
  rw [hdate, hday.toDays_ofMarch, ← hdays]

theorem exists_ofDays (days : Int) : (Date.ofDays days).Exists := by
  obtain ⟨year, day, hday, -, hdate⟩ := exists_ofMarch days
  exact hdate ▸ hday.exists_ofMarch

/-! ## The span of the calendar -/

/-- An instant within the years that dates may have. -/
structure HasDate (t : Instant) : Prop where
  year : yearInRange (Date.ofDays (t.seconds / 86400)).year = true
  nanos : t.nanos < 2000000000

instance (t : Instant) : Decidable t.HasDate :=
  decidable_of_iff (yearInRange (Date.ofDays (t.seconds / 86400)).year = true ∧
    t.nanos < 2000000000) ⟨fun h => ⟨h.1, h.2⟩, fun h => ⟨h.year, h.nanos⟩⟩

theorem natAbs_toDays_lt {date : Date} (hyear : yearInRange date.year = true)
    (h : date.Exists) : date.toDays.natAbs < 100000000 := by
  obtain ⟨hmonth, hmonth', hday, hday'⟩ := h
  have hle := daysInMonth_le date.year date.month
  simp only [yearInRange, Bool.and_eq_true, decide_eq_true_eq] at hyear
  simp only [Date.toDays]
  split <;> omega

theorem HasDate.natAbs_seconds_lt {t : Instant} (h : t.HasDate) :
    t.seconds.natAbs < 10000000000000 := by
  have hdays := natAbs_toDays_lt h.year (exists_ofDays (t.seconds / 86400))
  rw [toDays_ofDays] at hdays
  omega

theorem leapBetween_le (t start : Instant) : t.leapBetween start ≤ 1000000000 := by
  unfold leapBetween
  split
  · exact Int.le_refl _
  · split <;> decide

/-- No distance in the calendar comes near a signed word of milliseconds. -/
theorem HasDate.since_lt {t start : Instant} (ht : t.HasDate) (hstart : start.HasDate) :
    t.since start < 100000000000000000000000 := by
  have hseconds := ht.natAbs_seconds_lt
  have hseconds' := hstart.natAbs_seconds_lt
  have hleap := leapBetween_le t start
  have hnanos := ht.nanos
  unfold since sinceEpoch
  omega

end Watchpost.Instant
