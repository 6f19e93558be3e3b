import SqlFormula.Instant.Write
import SqlFormula.Number.Binary64

/-!
# Shifting times

## Main definitions

- `WallTime.addMilliseconds?` — a time later or earlier by a number of milliseconds
- `WallTime.addMonths?` — the same day of another month
- `WallTime.startOfDay`, `WallTime.startOfMonth`, `WallTime.startOfYear`
-/

namespace SqlFormula.WallTime

/-- Whether the date of a time lies in the years that instants have. -/
def InRange (t : WallTime) : Prop :=
  Instant.firstSecond ≤ t.seconds ∧ t.seconds ≤ Instant.lastSecond

instance (t : WallTime) : Decidable t.InRange :=
  inferInstanceAs (Decidable (_ ∧ _))

/-- A time, if it is in range. -/
def guard (t : WallTime) : Option WallTime :=
  if t.InRange then some t else none

/-- Adds seconds and nanoseconds of the same sign to a time outside of a leap second. -/
def addPlain (t : WallTime) (seconds nanos : Int) : WallTime :=
  let total := t.nanos + nanos
  { seconds := t.seconds + seconds + total / nanosPerSecond, nanos := (total % nanosPerSecond).toNat }

/-- Adds seconds and nanoseconds of the same sign. A time in a leap second stays in it, or before its
beginning, if less than a second is added; else the leap second counts as no time of its own. -/
def add (t : WallTime) (seconds nanos : Int) : WallTime :=
  if t.nanos < nanosPerSecond then t.addPlain seconds nanos
  else if 0 < seconds ∨ (0 < nanos ∧ 2 * nanosPerSecond ≤ t.nanos + nanos) then
    { t with nanos := t.nanos - nanosPerSecond }.addPlain seconds nanos
  else if seconds < 0 then
    { seconds := t.seconds + 1, nanos := t.nanos - nanosPerSecond : WallTime }.addPlain seconds nanos
  else { t with nanos := (t.nanos + nanos).toNat }

/-- The time that is later by a number of milliseconds. -/
def addMilliseconds? (t : WallTime) (ms : Int) : Option WallTime :=
  (t.add (ms.tdiv 1000) (ms.tmod 1000 * 1000000)).guard

/-- The time of a date at which the clock shows what it shows at `t`. -/
def onDate (t : WallTime) (d : Date) : WallTime :=
  { t with seconds := d.toDays * secondsPerDay + t.secondOfDay }

/-- The date a number of months later; its day is at most the last one of the month. -/
def monthsAfter (d : Date) (months : Int) : Date :=
  let total := d.year * 12 + (d.month - 1 : Nat) + months
  let year := total / 12
  let month := (total % 12).toNat + 1
  { year, month, day := min d.day (daysInMonth year month) }

/-- The time that is later by a number of months. -/
def addMonths? (t : WallTime) (months : Int) : Option WallTime :=
  (t.onDate (monthsAfter t.date months)).guard

/-- The midnight at the beginning of a date. -/
def midnight (d : Date) : WallTime where
  seconds := d.toDays * secondsPerDay
  nanos := 0

/-- The midnight before a time. -/
def startOfDay (t : WallTime) : WallTime :=
  midnight t.date

/-- The beginning of the month. -/
def startOfMonth (t : WallTime) : WallTime :=
  midnight { t.date with day := 1 }

/-- The beginning of the year. -/
def startOfYear (t : WallTime) : WallTime :=
  midnight { t.date with month := 1, day := 1 }

/-- Milliseconds since the beginning of 1970. -/
def milliseconds (t : WallTime) : Int :=
  t.seconds * 1000 + t.nanos / 1000000

end SqlFormula.WallTime

namespace SqlFormula.Instant

/-- The instant a number of milliseconds after the beginning of 1970. -/
def ofMilliseconds? (ms : Int) : Option Instant :=
  of? (ms / 1000) ((ms % 1000).toNat * 1000000)

/-- The instant a number of seconds, rounded to milliseconds, after the beginning of 1970. -/
def ofSeconds? (seconds : Float) : Option Instant :=
  if Number.isFinite seconds then
    ofMilliseconds? (Number.toInt64Nearest (Number.round (seconds * 1000.0))).toInt
  else none

end SqlFormula.Instant
