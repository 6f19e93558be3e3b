import SqlFormula.Calendar

/-!
# Instants

An instant is a number of seconds since the beginning of 1970 and a fraction in nanoseconds. A leap
second is a fraction of one second or more on the last second of a minute. Instants lie in the years
from -262143 to 262142.

## Main definitions

- `Instant`, `Instant.of?`
- `Instant.date`, `Instant.secondOfDay` — the date and the time of day
-/

namespace SqlFormula

/-- The seconds of a day. -/
def secondsPerDay : Int := 86400

/-- The nanoseconds of a second. -/
def nanosPerSecond : Nat := 1000000000

namespace Instant

/-- The first second of the year -262143. -/
def firstSecond : Int := -8334601228800

/-- The last second of the year 262142. -/
def lastSecond : Int := 8210266876799

theorem firstSecond_eq : firstSecond = (Date.mk (-262143) 1 1).toDays * secondsPerDay := by decide

theorem lastSecond_eq : lastSecond = ((Date.mk 262142 12 31).toDays + 1) * secondsPerDay - 1 := by decide

/-- Whether seconds and a fraction stand for an instant. -/
def Valid (seconds : Int) (nanos : Nat) : Prop :=
  (firstSecond ≤ seconds ∧ seconds ≤ lastSecond) ∧
    (nanos < nanosPerSecond ∨ (nanos < 2 * nanosPerSecond ∧ seconds % 60 = 59))

instance (seconds : Int) (nanos : Nat) : Decidable (Valid seconds nanos) :=
  inferInstanceAs (Decidable (_ ∧ _))

end Instant

/-- A point in time. -/
structure Instant where
  seconds : Int
  nanos : Nat
  valid : Instant.Valid seconds nanos
  deriving DecidableEq

namespace Instant

/-- The instant with the given seconds and fraction, if there is one. -/
def of? (seconds : Int) (nanos : Nat) : Option Instant :=
  if h : Valid seconds nanos then some ⟨seconds, nanos, h⟩ else none

/-- The beginning of 1970. -/
def epoch : Instant :=
  ⟨0, 0, by decide⟩

instance : Inhabited Instant := ⟨epoch⟩

/-- The order of time. -/
def compare (a b : Instant) : Ordering :=
  (Ord.compare a.seconds b.seconds).then (Ord.compare a.nanos b.nanos)

/-- The number of the day. -/
def days (t : Instant) : Int :=
  t.seconds / secondsPerDay

/-- The date. -/
def date (t : Instant) : Date :=
  Date.ofDays t.days

/-- The second of the day, counted from 0. -/
def secondOfDay (t : Instant) : Nat :=
  (t.seconds % secondsPerDay).toNat

end Instant

end SqlFormula
