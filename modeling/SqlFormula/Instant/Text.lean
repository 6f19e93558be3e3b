import SqlFormula.Instant.Read
import SqlFormula.Instant.Write

/-!
# The text of an instant

An instant in the years 1 to 9999 is written in the standard notation. Others are written as `@` and the seconds
since the beginning of 1970, with a fraction in nine digits if there is one.

## Main definitions

- `Instant.text`
- `Instant.ofText?` — an instant from its text
-/

namespace SqlFormula.Instant

/-- Whether an instant has a year of up to four digits after the beginning of our era. -/
def hasCommonYear (t : Instant) : Bool :=
  1 ≤ t.date.year && t.date.year ≤ 9999

/-- The seconds since the beginning of 1970 with their fraction. -/
def secondsText (t : Instant) : List Char :=
  let seconds := '@' :: (toString t.seconds).toList
  if t.nanos = 0 then seconds else seconds ++ '.' :: padded 9 t.nanos

/-- The text of an instant. -/
def text (t : Instant) : String :=
  if t.hasCommonYear then t.rfc3339 "Z" else String.ofList t.secondsText

/-- The fraction after seconds: nine characters after a point, or nothing. -/
def readFraction? : List Char → Option Nat
  | [] => some 0
  | '.' :: cs => if Text.byteLength cs = 9 then Number.readUnsigned? cs else none
  | _ => none

/-- The instant of seconds with or without a fraction. -/
def ofSecondsText? (cs : List Char) : Option Instant := do
  let seconds ← Number.readInt64? (cs.takeWhile (· != '.'))
  let nanos ← readFraction? (cs.dropWhile (· != '.'))
  of? seconds.toInt nanos

/-- The instant with a text. -/
def ofText? (s : String) : Option Instant :=
  match s.toList with
  | '@' :: cs => ofSecondsText? cs
  | _ => (readRfc3339 s).toOption

end SqlFormula.Instant
