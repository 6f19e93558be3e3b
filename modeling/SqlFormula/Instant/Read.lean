import SqlFormula.Instant.Write
import SqlFormula.Number.Integer
import SqlFormula.Reader
import SqlFormula.Text.Blank
import SqlFormula.Text.Bytes

/-!
# Reading dates and times

Three notations are read: the strict standard one, one with the same parts but fewer demands, and
the free forms of formulas, in which the offset from UTC, the seconds, the time or the date can be
missing.

## Main definitions

- `DateFault` — why a text is no date and time
- `readRfc3339` — the strict notation
- `readRelaxed` — the same with blanks between the parts and years of any length
- `readDateTime?` — the forms of formulas
-/

namespace SqlFormula

/-- Why a text is no date and time. -/
inductive DateFault where
  | invalid
  | tooShort
  | tooLong
  | outOfRange
  | notEnough
  | impossible
  deriving DecidableEq, Repr

/-- The fault in words. -/
def DateFault.message : DateFault → String
  | .invalid => "input contains invalid characters"
  | .tooShort => "premature end of input"
  | .tooLong => "trailing input"
  | .outOfRange => "input is out of range"
  | .notEnough => "input is not enough for unique date and time"
  | .impossible => "no possible date and time matching input"

/-- Readers of dates and times. -/
abbrev DateReader := Reader Char DateFault

namespace DateReader

open Reader

/-! ### Parts -/

/-- Reads digits: `least` of them at least, and no more than `most` if there is a bound. -/
def digits (least : Nat) (most : Option Nat) : DateReader Nat := do
  let cs ← ahead
  let within := match most with
    | some n => cs.take n
    | none => cs
  let read := within.takeWhile Char.isDigit
  if Text.byteLength cs < least then fail .tooShort
  else if read.length < least then fail .invalid
  else if 9223372036854775808 ≤ Number.digitsValue read then fail .outOfRange
  else
    skip read.length
    pure (Number.digitsValue read)

/-- Reads one of some characters. -/
def mark (allowed : List Char) : DateReader Unit := do
  match ← peek? with
  | some c => if allowed.contains c then skip 1 else fail .invalid
  | none => fail .tooShort

/-- Skips blanks. -/
def blanks : DateReader Unit := do
  let _ ← takeWhile Text.isBlank

/-- A number that has to lie between two bounds. -/
def between (least most : Nat) (number : DateReader Nat) : DateReader Nat := do
  let n ← number
  if least ≤ n ∧ n ≤ most then pure n else fail .outOfRange

/-- Reads the fraction of a second after its point, as nanoseconds. Digits after the ninth are dropped. -/
def nanoseconds : DateReader Nat := do
  let read ← takeWhile Char.isDigit
  if read.isEmpty then
    match ← peek? with
    | some _ => fail .invalid
    | none => fail .tooShort
  else
    let kept := read.take 9
    pure (Number.digitsValue kept * Nat.pow 10 (9 - kept.length))

/-- Reads a point and the fraction of a second, if they come next. -/
def fraction : DateReader Nat := do
  if (← peek?) = some '.' then
    skip 1
    nanoseconds
  else pure 0

/-- A date and a time of day by their parts. -/
structure Fields where
  year : Int
  month : Nat
  day : Nat
  hour : Nat
  minute : Nat
  second : Nat
  nanos : Nat

/-- The years that a date can have. -/
def isYear (year : Int) : Bool :=
  -262143 ≤ year && year ≤ 262142

/-- What a clock shows. The second 60 is the leap second of its minute. -/
def Fields.wallTime? (f : Fields) : Option WallTime :=
  let date : Date := { year := f.year, month := f.month, day := f.day }
  if isYear f.year ∧ date.Exists then
    let isLeap := f.second = 60
    some {
      seconds := date.toDays * secondsPerDay + f.hour * 3600 + f.minute * 60 + (if isLeap then 59 else f.second)
      nanos := f.nanos + if isLeap then nanosPerSecond else 0 }
  else none

/-- Reads two digits of an offset. -/
def twoDigits (most : Nat) : DateReader Nat := do
  match ← ahead with
  | a :: b :: _ =>
    if a.isDigit && b.isDigit then
      let n := Number.digitsValue [a, b]
      if most < n then fail .outOfRange
      else
        skip 2
        pure n
    else fail .invalid
  | [a] => if a.utf8Size = 1 then fail .tooShort else fail .invalid
  | [] => fail .tooShort

/-- Reads the offset from UTC in seconds; `colon` reads what stands between its hours and minutes. -/
def utcOffset (colon : DateReader Unit) : DateReader Int := do
  match ← next? with
  | none => fail .tooShort
  | some c =>
    if c = 'Z' ∨ c = 'z' then pure 0
    else if c = '+' ∨ c = '-' ∨ c = '−' then
      let hours ← twoDigits 99
      colon
      let minutes ← twoDigits 59
      let seconds : Int := hours * 3600 + minutes * 60
      pure (if c = '+' then seconds else -seconds)
    else fail .invalid

/-- The instant at which a clock that is ahead of UTC by an offset shows the fields. -/
def instant (f : Fields) (offset : Int) : DateReader Instant :=
  match f.wallTime? with
  | none => fail .outOfRange
  | some t =>
    if secondsPerDay ≤ offset.natAbs then fail .outOfRange
    else match Instant.of? (t.seconds - offset) t.nanos with
      | some i => pure i
      | none => fail .impossible

/-- Fails if anything is left. -/
def finish : DateReader Unit := do
  if (← peek?).isSome then fail .tooLong else pure ()

/-! ### The strict notation -/

/-- Reads the strict notation: `2024-03-15T10:30:00.5+01:00`, where `T` may be a blank and `Z` stands
for no offset. -/
def rfc3339 : DateReader Instant := do
  let year ← digits 4 (some 4)
  mark ['-']
  let month ← between 1 12 (digits 2 (some 2))
  mark ['-']
  let day ← between 1 31 (digits 2 (some 2))
  mark ['T', 't', ' ']
  let hour ← between 0 23 (digits 2 (some 2))
  mark [':']
  let minute ← between 0 59 (digits 2 (some 2))
  mark [':']
  let second ← between 0 60 (digits 2 (some 2))
  let nanos ← fraction
  let offset ← utcOffset (mark [':'])
  finish
  instant { year, month, day, hour, minute, second, nanos } offset

/-! ### Notations with fewer demands -/

/-- Reads a number of one or two digits, with blanks before it. -/
def looseNumber (least most : Nat) : DateReader Nat := do
  blanks
  between least most (digits 1 (some 2))

/-- Reads a year: up to four digits, or any number of them after a sign. -/
def looseYear : DateReader Int := do
  blanks
  let year ← match ← peek? with
    | some '-' => do
      skip 1
      let n ← digits 1 none
      pure (-(n : Int))
    | some '+' => do
      skip 1
      let n ← digits 1 none
      pure (n : Int)
    | _ => do
      let n ← digits 1 (some 4)
      pure (n : Int)
  if -2147483648 ≤ year ∧ year ≤ 2147483647 then pure year else fail .outOfRange

/-- Reads a year, a month and a day. -/
def looseDate : DateReader Fields := do
  let year ← looseYear
  mark ['-']
  let month ← looseNumber 1 12
  mark ['-']
  let day ← looseNumber 1 31
  pure { year, month, day, hour := 0, minute := 0, second := 0, nanos := 0 }

/-- Reads the hour and the minute, and also the second with its fraction if it is asked for. -/
def looseClock (withSeconds : Bool) (f : Fields) : DateReader Fields := do
  let hour ← looseNumber 0 23
  mark [':']
  let minute ← looseNumber 0 59
  if withSeconds then
    mark [':']
    let second ← looseNumber 0 60
    let nanos ← fraction
    pure { f with hour, minute, second, nanos }
  else pure { f with hour, minute }

/-- Whether the name of UTC comes next, in any case. -/
def isUtcName (cs : List Char) : Bool :=
  (cs.take 3).map Char.toLower == ['u', 't', 'c']

/-- Reads blanks and colons. -/
def colonsAndBlanks : DateReader Unit := do
  let _ ← takeWhile fun c => c == ':' || Text.isBlank c

/-- Reads a mark with blanks before it. -/
def spacedMark (c : Char) : DateReader Unit := do
  blanks
  mark [c]

/-- Fails if nothing is left. -/
def expectMore : DateReader Unit := do
  if (← peek?).isNone then fail .notEnough else pure ()

/-- Reads the notation of the standard with blanks between its parts, a year of any length, and the name of
UTC as offset. -/
def relaxed : DateReader Instant := do
  let year ← looseYear
  spacedMark '-'
  let month ← looseNumber 1 12
  spacedMark '-'
  let day ← looseNumber 1 31
  expectMore
  mark ['T', 't', ' ']
  let hour ← looseNumber 0 23
  spacedMark ':'
  let minute ← looseNumber 0 59
  spacedMark ':'
  let second ← looseNumber 0 60
  let nanos ← fraction
  blanks
  expectMore
  let offset ← if isUtcName (← ahead) then do
      skip 3
      pure 0
    else utcOffset colonsAndBlanks
  blanks
  finish
  instant { year, month, day, hour, minute, second, nanos } offset

/-! ### The forms of formulas -/

/-- The day on which a time without a date lies: 1 January 2000. -/
def timeOnlyDate : Fields :=
  { year := 2000, month := 1, day := 1, hour := 0, minute := 0, second := 0, nanos := 0 }

/-- Reads a date and a time of day with something between them. -/
def dateAndClock (separator : DateReader Unit) (withSeconds : Bool) : DateReader Fields := do
  let f ← looseDate
  separator
  looseClock withSeconds f

/-- The forms without an offset, in the order in which they are tried. -/
def forms : List (DateReader Fields) :=
  [dateAndClock blanks true, dateAndClock (mark ['T']) true, dateAndClock blanks false,
    dateAndClock (mark ['T']) false, looseDate, looseClock true timeOnlyDate, looseClock false timeOnlyDate]

/-- Reads a form to its end; it is in UTC. -/
def wholeForm (form : DateReader Fields) : DateReader Instant := do
  let f ← form
  finish
  instant f 0

end DateReader

/-- The instant that a text stands for in the strict notation. -/
def readRfc3339 (s : String) : Except DateFault Instant :=
  (DateReader.rfc3339.run 0 s.toList).1

/-- The instant that a text stands for in the strict notation with fewer demands. -/
def readRelaxed (s : String) : Except DateFault Instant :=
  (DateReader.relaxed.run 0 s.toList).1

/-- The instant that a text stands for in any of the forms of formulas: the strict notation, or a date and
a time, a date, or a time, which are in UTC. -/
def readDateTime? (s : String) : Option Instant :=
  let cs := Text.trimBlanks s.toList
  (DateReader.rfc3339 :: DateReader.forms.map DateReader.wholeForm).findSome? fun r =>
    (r.run 0 cs).1.toOption

end SqlFormula
