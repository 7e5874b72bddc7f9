import Watchpost.Proofs.Instant.Calendar
import Watchpost.Proofs.Text.Digits

set_option autoImplicit false

/-! # The text of an instant reads back

`Instant.read?` takes many spellings and any offset, but what it yields lies in the calendar: its
year is in range, and only the last second of a minute can be a leap second. Of such an instant,
`Instant.text` is a spelling. Each part of the text is read back on its own, in front of whatever
follows it. -/

namespace Watchpost.Instant

open Text (decimalValue paddedDecimal digitsPrefix)

/-! ## Parts of the text -/

theorem readDigits_append {width : Nat} {ds rest : List Char} (hdigits : ∀ c ∈ ds, c.isDigit = true)
    (hwidth : ds.length = width) (hne : ds ≠ []) :
    readDigits width (ds ++ rest) = some (decimalValue ds, rest) := by
  have htrim : Text.trimStart (ds ++ rest) = ds ++ rest := by
    cases ds with
    | nil => exact absurd rfl hne
    | cons c cs => exact Text.trimStart_of_isDigit (hdigits c List.mem_cons_self)
  have hrun : ((ds ++ rest).takeWhile Char.isDigit).take width = ds := by
    rw [List.takeWhile_append_of_pos hdigits, ← hwidth, List.take_left]
  have hempty : ds.isEmpty = false := List.isEmpty_eq_false_iff.2 hne
  simp only [readDigits, htrim, hrun, hempty, Bool.false_eq_true, if_false, List.drop_left]

theorem readDigits_paddedDecimal {width n : Nat} (hwidth : 0 < width) (h : n < 10 ^ width)
    (rest : List Char) : readDigits width (paddedDecimal width n ++ rest) = some (n, rest) := by
  rw [readDigits_append (fun c hc => Text.isDigit_of_mem_paddedDecimal hc)
    (Text.length_paddedDecimal hwidth h) (Text.paddedDecimal_ne_nil width n),
    Text.decimalValue_paddedDecimal]

theorem digitsPrefix_paddedDecimal (width n : Nat) {c : Char} (hc : c.isDigit = false)
    (rest : List Char) :
    digitsPrefix (paddedDecimal width n ++ c :: rest) = (paddedDecimal width n, c :: rest) :=
  Text.digitsPrefix_append (fun _ hd => Text.isDigit_of_mem_paddedDecimal hd) hc rest

theorem readMark_cons {mark : Char} (h : Text.isBlank mark = false) (rest : List Char) :
    readMark mark (mark :: rest) = some rest := by
  have htrim : Text.trimStart (mark :: rest) = mark :: rest :=
    List.dropWhile_cons_of_neg (by simp [h])
  rw [readMark, htrim]
  exact if_pos rfl

theorem readYear_of_isDigit {c : Char} (h : c.isDigit = true) (cs : List Char) :
    readYear (c :: cs) = (readDigits 4 (c :: cs)).map fun (n, rest) => ((n : Int), rest) := by
  rw [readYear, Text.trimStart_of_isDigit h]
  split
  · next heq =>
    rw [(List.cons.inj heq).1] at h
    cases h
  · next heq =>
    rw [(List.cons.inj heq).1] at h
    cases h
  · rfl

theorem readYear_yearText (year : Int) (rest : List Char) :
    readYear (yearText year ++ '-' :: rest) = some (year, '-' :: rest) := by
  have hdigits := digitsPrefix_paddedDecimal 4 year.natAbs (rfl : '-'.isDigit = false) rest
  unfold yearText
  split
  · next hfits =>
    have hread := readDigits_paddedDecimal (by decide : 0 < 4) (by omega : year.natAbs < 10 ^ 4)
      ('-' :: rest)
    obtain ⟨c, cs, hds⟩ := List.exists_cons_of_ne_nil (Text.paddedDecimal_ne_nil 4 year.natAbs)
    have hc : c.isDigit = true :=
      Text.isDigit_of_mem_paddedDecimal (hds ▸ List.mem_cons_self : c ∈ paddedDecimal 4 year.natAbs)
    have habs : (year.natAbs : Int) = year := Int.natAbs_of_nonneg hfits.1
    rw [hds, List.cons_append] at hread ⊢
    rw [readYear_of_isDigit hc, hread, Option.map_some]
    simp only [habs]
  · split
    · next hneg =>
      have htrim : Text.trimStart ('-' :: (paddedDecimal 4 year.natAbs ++ '-' :: rest)) =
          '-' :: (paddedDecimal 4 year.natAbs ++ '-' :: rest) := rfl
      have habs : -(year.natAbs : Int) = year := by omega
      simp only [List.cons_append, readYear, htrim, hdigits, Text.isEmpty_paddedDecimal,
        Bool.false_eq_true, if_false, Text.decimalValue_paddedDecimal, habs]
    · next hpos =>
      have htrim : Text.trimStart ('+' :: (paddedDecimal 4 year.natAbs ++ '-' :: rest)) =
          '+' :: (paddedDecimal 4 year.natAbs ++ '-' :: rest) := rfl
      have habs : (year.natAbs : Int) = year := by omega
      simp only [List.cons_append, readYear, htrim, hdigits, Text.isEmpty_paddedDecimal,
        Bool.false_eq_true, if_false, Text.decimalValue_paddedDecimal, habs]

/-! ## The fraction of a second -/

/-- The number of digits, of none, three, six and nine, that is the least to write a count of
    nanoseconds exactly. -/
structure IsFewestPlaces (nanos places : Nat) : Prop where
  mem : places ∈ [0, 3, 6, 9]
  exact : 10 ^ (9 - places) ∣ nanos
  le : ∀ p ∈ [0, 3, 6, 9], 10 ^ (9 - p) ∣ nanos → places ≤ p

theorem fractionText_eq {nanos : Nat} (h : nanos < 1000000000) :
    ∃ places, IsFewestPlaces nanos places ∧
      fractionText nanos =
        if places = 0 then [] else '.' :: paddedDecimal places (nanos / 10 ^ (9 - places)) := by
  unfold fractionText
  by_cases h0 : nanos = 0
  · subst h0
    exact ⟨0, ⟨by decide, Nat.dvd_zero _, fun p _ _ => Nat.zero_le p⟩, rfl⟩
  · have hzero : ¬ 10 ^ 9 ∣ nanos := by omega
    rw [if_neg h0]
    by_cases h3 : nanos % 1000000 = 0
    · refine ⟨3, ⟨by decide, Nat.dvd_of_mod_eq_zero h3, ?_⟩, by rw [if_pos h3]; rfl⟩
      simp only [List.mem_cons, List.not_mem_nil, or_false]
      rintro p (rfl | rfl | rfl | rfl) hp <;> omega
    · rw [if_neg h3]
      by_cases h6 : nanos % 1000 = 0
      · refine ⟨6, ⟨by decide, Nat.dvd_of_mod_eq_zero h6, ?_⟩, by rw [if_pos h6]; rfl⟩
        simp only [List.mem_cons, List.not_mem_nil, or_false]
        rintro p (rfl | rfl | rfl | rfl) hp <;> omega
      · refine ⟨9, ⟨by decide, Nat.one_dvd _, ?_⟩, by rw [if_neg h6]; simp⟩
        simp only [List.mem_cons, List.not_mem_nil, or_false]
        rintro p (rfl | rfl | rfl | rfl) hp <;> omega

theorem readFraction_fractionText {nanos : Nat} (h : nanos < 1000000000) (rest : List Char) :
    readFraction (fractionText nanos ++ 'Z' :: rest) = some (nanos, 'Z' :: rest) := by
  obtain ⟨places, hplaces, htext⟩ := fractionText_eq h
  rw [htext]
  by_cases h0 : places = 0
  · subst h0
    have hnanos : nanos = 0 := Nat.eq_zero_of_dvd_of_lt hplaces.exact h
    rw [if_pos rfl, hnanos]
    rfl
  · have hle : places ≤ 9 := hplaces.le 9 (by decide) (Nat.one_dvd nanos)
    have hpow : 10 ^ 9 = 10 ^ (9 - places) * 10 ^ places := by
      rw [← Nat.pow_add, Nat.sub_add_cancel hle]
    have hlt : nanos / 10 ^ (9 - places) < 10 ^ places := Nat.div_lt_of_lt_mul (hpow ▸ h)
    have hlength := Text.length_paddedDecimal (Nat.pos_of_ne_zero h0) hlt
    have hdigits := digitsPrefix_paddedDecimal places (nanos / 10 ^ (9 - places))
      (rfl : 'Z'.isDigit = false) rest
    have hkept : (paddedDecimal places (nanos / 10 ^ (9 - places))).take 9 =
        paddedDecimal places (nanos / 10 ^ (9 - places)) :=
      List.take_of_length_le (hlength.symm ▸ hle)
    have hvalue : nanos / 10 ^ (9 - places) * Nat.pow 10 (9 - places) = nanos :=
      Nat.div_mul_cancel hplaces.exact
    rw [if_neg h0, List.cons_append, readFraction]
    simp only [hdigits, Text.isEmpty_paddedDecimal, Bool.false_eq_true, if_false, hkept,
      Text.decimalValue_paddedDecimal, hlength, hvalue]

/-- Date and time of day to the second, the fewest digits that are exact after a point, and the mark
    of UTC. -/
def IsWrittenForm (t : Instant) (s : String) : Prop :=
  ∃ places, IsFewestPlaces (t.nanos % 1000000000) places ∧
    s.toList = localText ⟨t.seconds, t.nanos / 1000000000 * 1000000000⟩ ++
      (if places = 0 then []
        else '.' :: paddedDecimal places (t.nanos % 1000000000 / 10 ^ (9 - places))) ++ ['Z']

theorem isWrittenForm_text (t : Instant) : t.IsWrittenForm t.text := by
  obtain ⟨places, hplaces, hfraction⟩ :=
    fractionText_eq (Nat.mod_lt t.nanos (by decide : 0 < 1000000000))
  have hwhole : t.nanos / 1000000000 * 1000000000 % 1000000000 = 0 := Nat.mul_mod_left _ _
  have hleap : t.nanos / 1000000000 * 1000000000 / 1000000000 = t.nanos / 1000000000 :=
    Nat.mul_div_cancel _ (by decide)
  refine ⟨places, hplaces, ?_⟩
  rw [text, String.toList_ofList, ← hfraction]
  simp only [localText, hwhole, hleap, fractionText, if_true, List.append_nil]

/-! ## The calendar form -/

/-- An instant that a calendar form denotes: a leap second is the last second of its minute. -/
structure InCalendar (t : Instant) : Prop where
  year : yearInRange (Date.ofDays (t.seconds / 86400)).year = true
  nanos : t.nanos < 2000000000
  leap : 1000000000 ≤ t.nanos → t.seconds % 60 = 59

/-- What makes up an instant: a date that exists and a time of day, with room for a leap second at
    the end of any minute. -/
theorem assemble_eq_some_iff (date : Date) (hour minute second nanos : Nat) (offset : Int)
    (t : Instant) :
    assemble date hour minute second nanos offset = some t ↔
      (yearInRange date.year = true ∧ date.Exists) ∧
      (hour < 24 ∧ minute < 60 ∧ second ≤ 60 ∧ offset.natAbs < 86400) ∧
      yearInRange (Date.ofDays (t.seconds / 86400)).year = true ∧
      t.seconds = date.toDays * 86400 +
        (hour * 3600 + minute * 60 + if second = 60 then 59 else second) - offset ∧
      t.nanos = nanos + if second = 60 then 1000000000 else 0 := by
  have hexists : date.Exists ↔ 1 ≤ date.month ∧ date.month ≤ 12 ∧ 1 ≤ date.day ∧
      date.day ≤ daysInMonth date.year date.month :=
    ⟨fun ⟨h1, h2, h3, h4⟩ => ⟨h1, h2, h3, h4⟩, fun ⟨h1, h2, h3, h4⟩ => ⟨h1, h2, h3, h4⟩⟩
  rw [hexists]
  obtain ⟨seconds, nanoseconds⟩ := t
  simp only [assemble, Option.ite_none_right_eq_some, Bool.and_eq_true, decide_eq_true_eq,
    beq_iff_eq, Option.some.injEq, Instant.mk.injEq, and_assoc]
  constructor
  · rintro ⟨hyear, hm, hm', hd, hd', hhour, hmin, hsec, hoff, hfinal, rfl, rfl⟩
    exact ⟨hyear, hm, hm', hd, hd', hhour, hmin, hsec, hoff, hfinal, rfl, rfl⟩
  · rintro ⟨hyear, hm, hm', hd, hd', hhour, hmin, hsec, hoff, hfinal, rfl, rfl⟩
    exact ⟨hyear, hm, hm', hd, hd', hhour, hmin, hsec, hoff, hfinal, rfl, rfl⟩

/-- The date and the time of day of an instant make up the instant again. -/
theorem InCalendar.assemble_eq_some {t : Instant} (h : t.InCalendar) {time : Nat}
    (htime : (t.seconds % 86400).toNat = time) :
    assemble (Date.ofDays (t.seconds / 86400)) (time / 3600) (time / 60 % 60)
      (time % 60 + t.nanos / 1000000000) (t.nanos % 1000000000) 0 = some t := by
  obtain ⟨hyear, hnanos, hleap⟩ := h
  rw [assemble_eq_some_iff, toDays_ofDays]
  refine ⟨⟨hyear, exists_ofDays _⟩, by omega, hyear, ?_, ?_⟩
  · split <;> omega
  · split <;> omega

/-- **The text of an instant in the calendar denotes it.** -/
theorem InCalendar.read?_text {t : Instant} (h : t.InCalendar) : read? t.text = some t := by
  obtain ⟨hmonth, hmonth', hday, hday'⟩ := exists_ofDays (t.seconds / 86400)
  have hassemble := h.assemble_eq_some rfl
  obtain ⟨hyear, hnanos, hleap⟩ := h
  obtain ⟨time, htime⟩ : ∃ time, (t.seconds % 86400).toNat = time := ⟨_, rfl⟩
  have hdayLt : (Date.ofDays (t.seconds / 86400)).day < 10 ^ 2 := by
    have := daysInMonth_le (Date.ofDays (t.seconds / 86400)).year
      (Date.ofDays (t.seconds / 86400)).month
    omega
  have hmonthLt : (Date.ofDays (t.seconds / 86400)).month < 10 ^ 2 := by omega
  have hhour : time / 3600 < 10 ^ 2 := by omega
  have hminute : time / 60 % 60 < 10 ^ 2 := by omega
  have hsecond : time % 60 + t.nanos / 1000000000 < 10 ^ 2 := by omega
  have hfraction : t.nanos % 1000000000 < 1000000000 := Nat.mod_lt _ (by decide)
  rw [htime] at hassemble
  unfold read? text localText
  simp only [String.toList_ofList, List.append_assoc, List.cons_append, readYear_yearText, htime,
    Option.bind_eq_bind, Option.bind_some, readMark_cons (by decide : Text.isBlank '-' = false),
    readMark_cons (by decide : Text.isBlank ':' = false),
    readDigits_paddedDecimal (by decide : 0 < 2) hmonthLt,
    readDigits_paddedDecimal (by decide : 0 < 2) hdayLt,
    readDigits_paddedDecimal (by decide : 0 < 2) hhour,
    readDigits_paddedDecimal (by decide : 0 < 2) hminute,
    readDigits_paddedDecimal (by decide : 0 < 2) hsecond, readFraction_fractionText hfraction]
  exact hassemble

/-! ## What is read -/

theorem lt_of_readFraction {cs rest : List Char} {nanos : Nat}
    (h : readFraction cs = some (nanos, rest)) : nanos < 1000000000 := by
  unfold readFraction digitsPrefix at h
  split at h
  · next tail =>
    simp only [Option.ite_none_left_eq_some, Option.some.injEq, Prod.mk.injEq] at h
    obtain ⟨-, rfl, -⟩ := h
    have hkept : ∀ c ∈ (tail.takeWhile Char.isDigit).take 9, c.isDigit = true :=
      fun c hc => List.all_eq_true.1 List.all_takeWhile c (List.mem_of_mem_take hc)
    have hlt := Text.decimalValue_lt hkept
    have hle : ((tail.takeWhile Char.isDigit).take 9).length ≤ 9 := List.length_take_le 9 _
    have hpow : 10 ^ ((tail.takeWhile Char.isDigit).take 9).length *
        10 ^ (9 - ((tail.takeWhile Char.isDigit).take 9).length) = 1000000000 := by
      rw [← Nat.pow_add, Nat.add_sub_cancel' hle]
    exact hpow ▸ Nat.mul_lt_mul_of_pos_right hlt (Nat.pow_pos (by decide))
  · obtain ⟨rfl, -⟩ := Prod.mk.inj (Option.some.inj h)
    decide

theorem emod_of_signed (sign : Int) {cs rest : List Char} {offset : Int}
    (h : (do
      let (hours, rest) ← readPair '9' cs
      let (minutes, rest) ← readPair '5' (rest.dropWhile fun c => c == ':' || Text.isBlank c)
      some (sign * (hours * 3600 + minutes * 60), rest)) = some (offset, rest)) :
    offset % 60 = 0 := by
  simp only [Option.bind_eq_bind, Option.bind_eq_some_iff, Option.some.injEq, Prod.mk.injEq] at h
  obtain ⟨⟨hours, _⟩, -, ⟨minutes, _⟩, -, rfl, -⟩ := h
  have hsixty : (hours * 3600 + minutes * 60 : Int) = (hours * 60 + minutes) * 60 := by omega
  rw [hsixty, ← Int.mul_assoc]
  exact Int.mul_emod_left _ _

/-- Offsets are whole minutes. -/
theorem emod_of_readOffset {cs rest : List Char} {offset : Int}
    (h : readOffset cs = some (offset, rest)) : offset % 60 = 0 := by
  unfold readOffset at h
  split at h
  · obtain ⟨rfl, -⟩ := Prod.mk.inj (Option.some.inj h)
    rfl
  · obtain ⟨rfl, -⟩ := Prod.mk.inj (Option.some.inj h)
    rfl
  · split at h
    · obtain ⟨rfl, -⟩ := Prod.mk.inj (Option.some.inj h)
      rfl
    · simp only [Option.bind_eq_bind] at h
      split at h
      · exact emod_of_signed 1 h
      · split at h
        · exact emod_of_signed (-1) h
        · cases h
  · cases h

theorem inCalendar_of_assemble {date : Date} {hour minute second nanos : Nat} {offset : Int}
    {t : Instant} (hnanos : nanos < 1000000000) (hoffset : offset % 60 = 0)
    (h : assemble date hour minute second nanos offset = some t) : t.InCalendar := by
  obtain ⟨-, -, hyear, hseconds, htotal⟩ := (assemble_eq_some_iff ..).1 h
  refine ⟨hyear, ?_, fun hleap => ?_⟩
  · split at htotal <;> omega
  · split at htotal
    · next hlast =>
      rw [if_pos hlast] at hseconds
      omega
    · omega

/-- Read what follows a date and the mark after it. -/
def readTime (date : Date) (cs : List Char) : Option Instant := do
  let (hour, cs) ← readDigits 2 cs
  let cs ← readMark ':' cs
  let (minute, cs) ← readDigits 2 cs
  let cs ← readMark ':' cs
  let (second, cs) ← readDigits 2 cs
  let (nanos, cs) ← readFraction cs
  let (offset, cs) ← readOffset (Text.trimStart cs)
  if (Text.trimStart cs).isEmpty then assemble date hour minute second nanos offset else none

theorem inCalendar_of_readTime {date : Date} {cs : List Char} {t : Instant}
    (h : readTime date cs = some t) : t.InCalendar := by
  simp only [readTime, Option.bind_eq_bind, Option.bind_eq_some_iff,
    Option.ite_none_right_eq_some] at h
  obtain ⟨⟨hour, _⟩, -, _, -, ⟨minute, _⟩, -, _, -, ⟨second, _⟩, -, ⟨nanos, _⟩, hnanos,
    ⟨offset, _⟩, hoffset, -, h⟩ := h
  exact inCalendar_of_assemble (lt_of_readFraction hnanos) (emod_of_readOffset hoffset) h

/-- **What is read lies in the calendar.** -/
theorem inCalendar_of_read? {text : String} {t : Instant} (h : read? text = some t) :
    t.InCalendar := by
  obtain ⟨⟨year, _⟩, -, h⟩ := Option.bind_eq_some_iff.1 h
  obtain ⟨_, -, h⟩ := Option.bind_eq_some_iff.1 h
  obtain ⟨⟨month, _⟩, -, h⟩ := Option.bind_eq_some_iff.1 h
  obtain ⟨_, -, h⟩ := Option.bind_eq_some_iff.1 h
  obtain ⟨⟨day, cs⟩, -, h⟩ := Option.bind_eq_some_iff.1 h
  -- One of three marks stands between the date and the time.
  simp only at h
  split at h
  · exact inCalendar_of_readTime (t := t) h
  · exact inCalendar_of_readTime (t := t) h
  · exact inCalendar_of_readTime (t := t) h
  · cases h

end Watchpost.Instant
