import SqlFormula.Instant.Write

/-!
# Time zones

A time zone is a sequence of spans of time, in each of which its clocks are ahead of UTC by a fixed
offset. The offset in force at an instant is always known. A local time can be shown in no span, when
clocks are put forward, or in two, when they are put back.

## Main definitions

- `Zone` — a first offset and the changes after it
- `Zone.offsetAt` — the offset in force at an instant
- `Zone.toLocal`, `Zone.toUtc?` — what the clocks show, and when they first show it
- `YearlyChange` — a change that recurs each year
-/

namespace SqlFormula

/-- A change of a time zone: from a second in UTC on, clocks are ahead by an offset in seconds. -/
structure ZoneChange where
  second : Int
  offset : Int
  deriving DecidableEq, Repr

/-- A time zone: the offset at first, and its changes in the order of time. -/
structure Zone where
  name : String
  first : Int
  changes : List ZoneChange
  deriving Repr

namespace Zone

/-- The offset after those of some changes that have come by a second. -/
def offsetAfter (second : Int) (offset : Int) : List ZoneChange → Int
  | [] => offset
  | c :: rest => if c.second ≤ second then offsetAfter second c.offset rest else offset

/-- The offset in force at a second in UTC. -/
def offsetAt (zone : Zone) (second : Int) : Int :=
  offsetAfter second zone.first zone.changes

/-- What the clocks of the zone show when those of UTC show `t`. -/
def toLocal (zone : Zone) (t : WallTime) : WallTime :=
  { t with seconds := t.seconds + zone.offsetAt t.seconds }

/-- The offset of the first span in which clocks show a local second. `offset` is that of the span up to the
next change, and `begun` tells whether the span has begun when they show it. -/
def spanOffset? (second : Int) (begun : Bool) (offset : Int) : List ZoneChange → Option Int
  | [] => if begun then some offset else none
  | c :: rest =>
    if begun && decide (second < c.second + offset) then some offset
    else spanOffset? second (c.second + c.offset ≤ second) c.offset rest

/-- What the clocks of UTC show when those of the zone first show `t`. -/
def toUtc? (zone : Zone) (t : WallTime) : Option WallTime :=
  (spanOffset? t.seconds true zone.first zone.changes).map fun offset =>
    { t with seconds := t.seconds - offset }

end Zone

/-- A change that recurs each year on a Sunday: the last of a month, or a later one counted from 1. `second` is
counted from the midnight in UTC before that Sunday. -/
structure YearlyChange where
  month : Nat
  sunday : Option Nat
  second : Int
  offset : Int

namespace YearlyChange

/-- The day of a month on which the change is made. -/
def day (c : YearlyChange) (year : Int) : Nat :=
  let firstSunday := 1 + (7 - Date.weekday { year, month := c.month, day := 1 }) % 7
  match c.sunday with
  | some n => firstSunday + 7 * (n - 1)
  | none => firstSunday + 7 * ((daysInMonth year c.month - firstSunday) / 7)

/-- The change in a year. -/
def inYear (c : YearlyChange) (year : Int) : ZoneChange :=
  let date : Date := { year, month := c.month, day := c.day year }
  { second := date.toDays * secondsPerDay + c.second, offset := c.offset }

/-- The last year in which yearly changes are made. -/
def lastYear : Nat := 2099

/-- Yearly changes from a year up to the last one. -/
def schedule (firstYear : Nat) (yearly : List YearlyChange) : List ZoneChange :=
  (List.range' firstYear (lastYear + 1 - firstYear)).flatMap fun year =>
    yearly.map (·.inYear year)

end YearlyChange

end SqlFormula
