import Watchpost.Text.Blank
import Watchpost.Text.Digits

set_option autoImplicit false

/-! # Instants

An instant is a count of seconds since the start of 1970 in UTC and a count of nanoseconds. A leap
second is the second before it with a billion nanoseconds or more. `Instant.text` writes an instant
in the calendar form of RFC 3339, with as many groups of three fraction digits as it needs, and
`Instant.read?` reads that form, with any offset. Distances are exact counts of nanoseconds, as if
there were no leap seconds but the ones that their ends lie in. -/

namespace Watchpost

/-- A point in time. -/
structure Instant where
  /-- Whole seconds since the start of 1970. -/
  seconds : Int
  /-- Nanoseconds on top; a billion or more within a leap second. -/
  nanos : Nat
deriving DecidableEq, Repr, Inhabited

namespace Instant

/-! ## Distances -/

/-- Nanoseconds since the start of 1970. -/
def sinceEpoch (t : Instant) : Int :=
  t.seconds * 1000000000 + t.nanos

/-- The second of its day that an instant falls into. -/
def secondOfDay (t : Instant) : Int :=
  t.seconds % 86400

/-- Whether an instant lies within a leap second. -/
def isLeap (t : Instant) : Bool :=
  decide (1000000000 ≤ t.nanos)

/-- What a leap second at one end adds to the distance from `start` to `t`: it is passed when the
    other end has a later second of the day. -/
def leapBetween (t start : Instant) : Int :=
  if start.isLeap ∧ start.secondOfDay < t.secondOfDay then 1000000000
  else if t.isLeap ∧ t.secondOfDay < start.secondOfDay then -1000000000
  else 0

/-- Nanoseconds from `start` to `t`; negative when `t` is the earlier one. -/
def since (t start : Instant) : Int :=
  t.sinceEpoch - start.sinceEpoch + t.leapBetween start

/-- The instant that many nanoseconds after the start of 1970. -/
def ofSinceEpoch (n : Int) : Instant :=
  ⟨n / 1000000000, (n % 1000000000).toNat⟩

/-! ## The calendar -/

/-- A date of the calendar. -/
structure Date where
  year : Int
  month : Nat
  day : Nat
deriving DecidableEq, Repr

/-- Whether a year has a 29 February. -/
def isLeapYear (year : Int) : Bool :=
  year % 4 == 0 && (year % 100 != 0 || year % 400 == 0)

/-- The number of days of a month. -/
def daysInMonth (year : Int) : Nat → Nat
  | 2 => if isLeapYear year then 29 else 28
  | 4 | 6 | 9 | 11 => 30
  | _ => 31

/-- Days from 1 January 1970 to a date. Years are counted from March, so that a leap day is the last
    of its year. -/
def Date.toDays (d : Date) : Int :=
  let year := if d.month ≤ 2 then d.year - 1 else d.year
  let era := year / 400
  let yearOfEra := year % 400
  let dayOfYear : Int := (153 * ((d.month + 9) % 12) + 2) / 5 + d.day - 1
  era * 146097 + (yearOfEra * 365 + yearOfEra / 4 - yearOfEra / 100 + dayOfYear) - 719468

/-- The date that many days after 1 January 1970. -/
def Date.ofDays (days : Int) : Date :=
  let shifted := days + 719468
  let era := shifted / 146097
  let dayOfEra := shifted % 146097
  let yearOfEra := (dayOfEra - dayOfEra / 1460 + dayOfEra / 36524 - dayOfEra / 146096) / 365
  let dayOfYear := dayOfEra - (365 * yearOfEra + yearOfEra / 4 - yearOfEra / 100)
  let m := (5 * dayOfYear + 2) / 153
  let day := dayOfYear - (153 * m + 2) / 5 + 1
  let month := if m < 10 then m + 3 else m - 9
  let year := yearOfEra + era * 400
  ⟨if month ≤ 2 then year + 1 else year, month.toNat, day.toNat⟩

/-! ## Writing -/

/-- A year: four digits, with a sign where it does not fit them. -/
def yearText (year : Int) : List Char :=
  if 0 ≤ year ∧ year ≤ 9999 then Text.paddedDecimal 4 year.natAbs
  else (if year < 0 then '-' else '+') :: Text.paddedDecimal 4 year.natAbs

/-- The fraction of a second: none, three, six or nine digits, the fewest that are exact. -/
def fractionText (nanos : Nat) : List Char :=
  if nanos = 0 then []
  else if nanos % 1000000 = 0 then '.' :: Text.paddedDecimal 3 (nanos / 1000000)
  else if nanos % 1000 = 0 then '.' :: Text.paddedDecimal 6 (nanos / 1000)
  else '.' :: Text.paddedDecimal 9 nanos

/-- Date and time of day, without an offset. -/
def localText (t : Instant) : List Char :=
  let date := Date.ofDays (t.seconds / 86400)
  let time := (t.seconds % 86400).toNat
  let two := Text.paddedDecimal 2
  yearText date.year ++ '-' :: two date.month ++ '-' :: two date.day ++ 'T' :: two (time / 3600) ++
    ':' :: two (time / 60 % 60) ++ ':' :: two (time % 60 + t.nanos / 1000000000) ++
    fractionText (t.nanos % 1000000000)

/-- The text of an instant, ending in `Z`. -/
def text (t : Instant) : String :=
  String.ofList (t.localText ++ ['Z'])

/-- The text of an instant, ending in the offset `+00:00`. -/
def offsetText (t : Instant) : String :=
  String.ofList (t.localText ++ "+00:00".toList)

/-! ## Reading

Blanks may stand before each number and around the dashes and colons of date and time. -/

/-- Read a number of at most `width` digits, after blanks. -/
def readDigits (width : Nat) (cs : List Char) : Option (Nat × List Char) :=
  let cs := Text.trimStart cs
  let digits := (cs.takeWhile Char.isDigit).take width
  if digits.isEmpty then none
  else some (Text.decimalValue digits, cs.drop digits.length)

/-- Read a year: at most four digits, or any number of digits after a sign. -/
def readYear (cs : List Char) : Option (Int × List Char) :=
  match Text.trimStart cs with
  | '-' :: rest =>
    let (digits, rest) := Text.digitsPrefix rest
    if digits.isEmpty then none else some (-(Text.decimalValue digits : Int), rest)
  | '+' :: rest =>
    let (digits, rest) := Text.digitsPrefix rest
    if digits.isEmpty then none else some ((Text.decimalValue digits : Int), rest)
  | cs => (readDigits 4 cs).map fun (n, rest) => ((n : Int), rest)

/-- Read one given character, after blanks. -/
def readMark (mark : Char) (cs : List Char) : Option (List Char) :=
  match Text.trimStart cs with
  | c :: rest => if c = mark then some rest else none
  | [] => none

/-- Read the fraction of a second in nanoseconds; digits beyond the ninth are dropped. -/
def readFraction (cs : List Char) : Option (Nat × List Char) :=
  match cs with
  | '.' :: rest =>
    let (digits, rest) := Text.digitsPrefix rest
    if digits.isEmpty then none
    else
      let kept := digits.take 9
      some (Text.decimalValue kept * Nat.pow 10 (9 - kept.length), rest)
  | _ => some (0, cs)

/-- Read two digits, the first at most `tens`. -/
def readPair (tens : Char) (cs : List Char) : Option (Nat × List Char) :=
  match cs with
  | a :: b :: rest =>
    if a.isDigit && b.isDigit && decide (a ≤ tens) then some (Text.decimalValue [a, b], rest)
    else none
  | _ => none

/-- Read an offset from UTC in seconds: `Z`, `UTC`, or hours and minutes after a sign. -/
def readOffset (cs : List Char) : Option (Int × List Char) :=
  match cs with
  | 'Z' :: rest | 'z' :: rest => some (0, rest)
  | u :: t :: c :: rest =>
    if [u, t, c].map Char.toUpper = ['U', 'T', 'C'] then some (0, rest)
    else do
      let sign : Int ←
        if u = '+' then some 1 else if u = '-' ∨ u = '\u2212' then some (-1) else none
      let (hours, rest) ← readPair '9' (t :: c :: rest)
      let (minutes, rest) ← readPair '5' (rest.dropWhile fun c => c == ':' || Text.isBlank c)
      some (sign * (hours * 3600 + minutes * 60), rest)
  | _ => none

/-- The years that dates may have. -/
def yearInRange (year : Int) : Bool :=
  decide (-262143 ≤ year) && decide (year ≤ 262142)

/-- The seconds of a date and a time of day in UTC, where both exist. -/
def assemble (date : Date) (hour minute second nanos : Nat) (offset : Int) : Option Instant :=
  if yearInRange date.year && decide (1 ≤ date.month) && decide (date.month ≤ 12) &&
      decide (1 ≤ date.day) && decide (date.day ≤ daysInMonth date.year date.month) &&
      decide (hour < 24) && decide (minute < 60) && decide (second ≤ 60) &&
      decide (offset.natAbs < 86400) then
    let leap := second == 60
    let time : Int := hour * 3600 + minute * 60 + (if leap then 59 else second)
    let seconds := date.toDays * 86400 + time - offset
    if yearInRange (Date.ofDays (seconds / 86400)).year then
      some ⟨seconds, nanos + (if leap then 1000000000 else 0)⟩
    else none
  else none

/-- Read an instant from its calendar form. -/
def read? (text : String) : Option Instant := do
  let (year, cs) ← readYear text.toList
  let cs ← readMark '-' cs
  let (month, cs) ← readDigits 2 cs
  let cs ← readMark '-' cs
  let (day, cs) ← readDigits 2 cs
  let cs ← match cs with
    | 'T' :: rest | 't' :: rest | ' ' :: rest => some rest
    | _ => none
  let (hour, cs) ← readDigits 2 cs
  let cs ← readMark ':' cs
  let (minute, cs) ← readDigits 2 cs
  let cs ← readMark ':' cs
  let (second, cs) ← readDigits 2 cs
  let (nanos, cs) ← readFraction cs
  let (offset, cs) ← readOffset (Text.trimStart cs)
  if (Text.trimStart cs).isEmpty then
    assemble ⟨year, month, day⟩ hour minute second nanos offset
  else none

end Instant

end Watchpost
