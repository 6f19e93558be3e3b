/-!
# The calendar

Dates of the Gregorian calendar, extended without bounds to both sides, and their numbers: day 0 is
1 January 1970. Years before the year 1 are the year 0, the year -1 and so on.

## Main definitions

- `Date` — a year, a month and a day
- `Date.toDays`, `Date.ofDays` — dates and day numbers
- `Date.weekday`, `Date.dayOfYear`
-/

namespace SqlFormula

/-- Whether a year has 366 days. -/
def isLeapYear (year : Int) : Bool :=
  year % 4 = 0 && (year % 100 ≠ 0 || year % 400 = 0)

/-- The lengths of the months of a year. -/
def monthLengths (year : Int) : List Nat :=
  [31, if isLeapYear year then 29 else 28, 31, 30, 31, 30, 31, 31, 30, 31, 30, 31]

/-- The length of a month of a year; months are counted from 1. -/
def daysInMonth (year : Int) (month : Nat) : Nat :=
  (monthLengths year).getD (month - 1) 0

/-- A date: months and days are counted from 1. -/
structure Date where
  year : Int
  month : Nat
  day : Nat
  deriving DecidableEq, Repr, Inhabited

namespace Date

/-- Whether the calendar has the date. -/
def Exists (d : Date) : Prop :=
  1 ≤ d.month ∧ d.month ≤ 12 ∧ 1 ≤ d.day ∧ d.day ≤ daysInMonth d.year d.month

instance (d : Date) : Decidable d.Exists :=
  inferInstanceAs (Decidable (_ ∧ _))

/-- The number of the day before 1 January of the year 1. -/
def dayZero : Int := -719163

/-- The days from the beginning of the year 1 to the beginning of a year. -/
def daysBeforeYear (year : Int) : Int :=
  365 * (year - 1) + (year - 1) / 4 - (year - 1) / 100 + (year - 1) / 400

/-- The day of the year, counted from 1. -/
def dayOfYear (d : Date) : Nat :=
  ((monthLengths d.year).take (d.month - 1)).foldl (· + ·) d.day

/-- The number of a date. -/
def toDays (d : Date) : Int :=
  dayZero + daysBeforeYear d.year + d.dayOfYear

/-- Finds the month of a day of the year, given the lengths of the months from some month on. -/
def splitMonths (month : Nat) (day : Nat) : List Nat → Nat × Nat
  | [] => (month, day)
  | length :: lengths => if day ≤ length then (month, day) else splitMonths (month + 1) (day - length) lengths

/-- The date of a day of a year; both are counted from 1. -/
def ofDayOfYear (year : Int) (day : Nat) : Date :=
  let (month, day) := splitMonths 1 day (monthLengths year)
  { year, month, day }

/-- The date with a number. Within 400 years of 146097 days, the first three centuries have 36524 days each,
and within a century all but the last of its four-year spans have 1461 days. -/
def ofDays (n : Int) : Date :=
  let sinceOne := n - dayZero - 1
  let era := sinceOne / 146097
  let inEra := (sinceOne % 146097).toNat
  let century := min (inEra / 36524) 3
  let inCentury := inEra - century * 36524
  let span := inCentury / 1461
  let inSpan := inCentury % 1461
  let year := min (inSpan / 365) 3
  ofDayOfYear (era * 400 + century * 100 + span * 4 + year + 1) (inSpan - year * 365 + 1)

/-- The day of the week of a day number; Sunday is 0. -/
def weekdayOf (n : Int) : Nat :=
  ((n + 4) % 7).toNat

/-- The day of the week; Sunday is 0. -/
def weekday (d : Date) : Nat :=
  weekdayOf d.toDays

end Date

end SqlFormula
