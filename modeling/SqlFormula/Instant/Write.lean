import SqlFormula.Instant

/-!
# Writing dates and times

## Main definitions

- `padded` — a number filled up with zeros
- `yearText` — years with four digits, and those outside of 0 to 9999 with a sign
- `WallTime` — a date and a time of day as clocks show them
- `Instant.rfc3339` — the standard text of an instant
-/

namespace SqlFormula

/-- A number in at least `width` digits. -/
def padded (width n : Nat) : List Char :=
  let digits := Nat.toDigits 10 n
  List.replicate (width - digits.length) '0' ++ digits

/-- A year in four digits; outside of 0 to 9999 it has a sign. -/
def yearText (year : Int) : List Char :=
  if year < 0 then '-' :: padded 4 year.natAbs
  else if year ≤ 9999 then padded 4 year.natAbs
  else '+' :: padded 4 year.natAbs

/-- A date as year, month and day with hyphens between them. -/
def Date.text (d : Date) : List Char :=
  yearText d.year ++ '-' :: padded 2 d.month ++ '-' :: padded 2 d.day

/-- The fraction of a second with three, six or nine digits, as few as are exact; nothing for none. -/
def fractionText (nanos : Nat) : List Char :=
  if nanos = 0 then []
  else if nanos % 1000000 = 0 then '.' :: padded 3 (nanos / 1000000)
  else if nanos % 1000 = 0 then '.' :: padded 6 (nanos / 1000)
  else '.' :: padded 9 nanos

/-- A date and a time of day as clocks show them, as seconds since the beginning of 1970 on that clock. During
a leap second the fraction is one second or more. -/
structure WallTime where
  seconds : Int
  nanos : Nat
  deriving DecidableEq, Repr

namespace WallTime

/-- The number of the day. -/
def days (t : WallTime) : Int :=
  t.seconds / secondsPerDay

/-- The date. -/
def date (t : WallTime) : Date :=
  Date.ofDays t.days

/-- The second of the day, counted from 0. -/
def secondOfDay (t : WallTime) : Nat :=
  (t.seconds % secondsPerDay).toNat

/-- The hour of the day. -/
def hour (t : WallTime) : Nat :=
  t.secondOfDay / 3600

/-- The minute of the hour. -/
def minute (t : WallTime) : Nat :=
  t.secondOfDay / 60 % 60

/-- The second of the minute; 60 during a leap second. -/
def second (t : WallTime) : Nat :=
  t.secondOfDay % 60 + t.nanos / nanosPerSecond

/-- The fraction of the second. -/
def fraction (t : WallTime) : Nat :=
  t.nanos % nanosPerSecond

/-- The time of day as hours, minutes and seconds with colons between them. -/
def clockText (t : WallTime) : List Char :=
  padded 2 t.hour ++ ':' :: padded 2 t.minute ++ ':' :: padded 2 t.second

/-- The date and the time of day with a character between them. -/
def text (between : Char) (t : WallTime) : List Char :=
  t.date.text ++ between :: t.clockText

end WallTime

namespace Instant

/-- What clocks in UTC show. -/
def wallTime (t : Instant) : WallTime where
  seconds := t.seconds
  nanos := t.nanos

/-- The date and the time of day in UTC, without the fraction. -/
def display (t : Instant) : String :=
  String.ofList (t.wallTime.text ' ')

/-- The date, the time of day with its fraction, and a mark for UTC. -/
def rfc3339 (mark : String) (t : Instant) : String :=
  String.ofList (t.wallTime.text 'T' ++ fractionText t.wallTime.fraction) ++ mark

end Instant

end SqlFormula
