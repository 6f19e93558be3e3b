import SqlFormula.Eval.Arguments
import SqlFormula.Eval.Context
import SqlFormula.Instant.Read
import SqlFormula.Number.Layout
import SqlFormula.WallTime.Shift

/-!
# Functions on dates and times

Every function starts from a time value, applies its modifiers one after the other, and shows the time that
results. Times are in UTC unless a modifier says otherwise.

## Main definitions

- `timeValue?` — the time that a value stands for
- `applyModifier` — a modifier applied to a time
- `formatTime` — a time by a format with conversions such as `%Y`
- `Call.onDates?` — the functions of this family
-/

namespace SqlFormula

/-- The time that a number of seconds stands for. -/
def numberTime? : Value → Option WallTime
  | .integer i => (Instant.of? i.toInt 0).map Instant.wallTime
  | .float x => (Instant.ofSeconds? x).map Instant.wallTime
  | _ => none

/-- Whether a text is the word `now`. -/
def isNow (s : String) : Bool :=
  Text.eqIgnoreAsciiCase (Text.trim s) "now"

/-- The time that a text stands for: the present, a date and time, or a number of seconds. -/
def textTime? (now : Instant) (s : String) : Option WallTime :=
  if isNow s then some now.wallTime
  else match readDateTime? s with
    | some t => some t.wallTime
    | none => (parseNumber? s).bind numberTime?

/-- The time that a value stands for. -/
def timeValue? (now : Instant) : Value → Option WallTime
  | .dateTime t => some t.wallTime
  | .text s => textTime? now s
  | v => numberTime? v

/-! ### Modifiers -/

/-- A number of months from a float, which has to be whole. -/
def monthsOf? (amount : Float) : Option Int :=
  if Number.isWhole amount && amount.abs ≤ 4294967295.0 then Number.truncate? amount else none

/-- The milliseconds of a unit of time. -/
def unitMilliseconds? : String → Option Float
  | "day" => some 86400000.0
  | "hour" => some 3600000.0
  | "minute" => some 60000.0
  | "second" => some 1000.0
  | _ => none

/-- A time later by an amount of some unit. -/
def addAmount? (t : WallTime) (amount : Float) (unit : String) : Option WallTime :=
  match unit with
  | "month" => (monthsOf? amount).bind t.addMonths?
  | "year" => (monthsOf? (amount * 12.0)).bind t.addMonths?
  | unit => do
    let ms := Number.round (amount * (← unitMilliseconds? unit))
    if ms.abs ≥ 9223372036854775808.0 then none else t.addMilliseconds? (← Number.truncate? ms)

/-- A unit without the letters `s` at its end. -/
def singular (unit : String) : String :=
  String.ofList (Text.dropEndWhile (· == 's') unit.toList)

/-- A modifier that is an amount and a unit, such as `+3 days`. -/
def applyAmount? (t : WallTime) (modifier : String) : Option WallTime :=
  match Text.words modifier with
  | [amount, unit] => do
    let x ← Number.readFloat? amount.toList
    if Number.isFinite x then addAmount? t x (singular unit) else none
  | _ => none

/-- A modifier applied to a time. One that is not known, or that leads beyond the calendar, is an error; so is a local
time beyond the calendar. -/
def applyModifier (zone : Zone) (t : WallTime) (modifier : String) : Except EvalError WallTime :=
  let orInvalid (result : Option WallTime) : Except EvalError WallTime :=
    match result with
    | some t => .ok t
    | none => .error (.invalidDate modifier)
  match Text.asciiLower (Text.trim modifier) with
  | "start of day" => .ok t.startOfDay
  | "start of month" => .ok t.startOfMonth
  | "start of year" => .ok t.startOfYear
  | "localtime" =>
    match (zone.toLocal t).guard with
    | some t => .ok t
    | none => .error .localTimeOutOfRange
  | "utc" => orInvalid ((zone.toUtc? t).bind WallTime.guard)
  | "unixepoch" => .ok t
  | words => orInvalid (applyAmount? t words)

/-- The modifiers among the arguments of a call applied to a time one after the other; nothing if one is NULL.
`index` is the number of the first of them. -/
def applyModifiers (f : Builtin) (zone : Zone) (index : Nat) (t : WallTime) :
    List Value → Except EvalError (Option WallTime)
  | [] => .ok (some t)
  | v :: vs => do
    let some modifier ← f.asTextArg index v | return none
    applyModifiers f zone (index + 1) (← applyModifier zone t modifier) vs

/-- The time that the arguments of a call stand for: a time value and modifiers, or the present if there are
no arguments. Nothing if one of them is NULL. -/
def resolveTime (f : Builtin) (ctx : Context) : List Value → Except EvalError (Option WallTime)
  | [] => .ok (some ctx.now.wallTime)
  | .null :: _ => .ok none
  | v :: modifiers =>
    match timeValue? ctx.now v with
    | none => .error (.invalidDate v.display)
    | some t => applyModifiers f ctx.options.zone 1 t modifiers

/-! ### Formats -/

/-- The number of the week in the year; weeks begin on Monday, and the days before the first Monday are in
week 0. -/
def weekOfYear (d : Date) : Nat :=
  (d.dayOfYear + 6 - (d.weekday + 6) % 7) / 7

/-- The Julian day of a time. -/
def julianDay (t : WallTime) : Float :=
  Number.ofInt t.milliseconds / 86400000.0 + 2440587.5

/-- What a conversion stands for; one that is not known stands for itself. -/
def conversion (t : WallTime) (c : Char) : List Char :=
  match c with
  | 'd' => padded 2 t.date.day
  | 'H' => padded 2 t.hour
  | 'j' => padded 3 t.date.dayOfYear
  | 'm' => padded 2 t.date.month
  | 'M' => padded 2 t.minute
  | 's' => (toString t.seconds).toList
  | 'S' => padded 2 t.second
  | 'w' => (toString t.date.weekday).toList
  | 'W' => padded 2 (weekOfYear t.date)
  | 'Y' => yearText t.date.year
  | 'f' => padded 2 t.second ++ '.' :: padded 3 (t.fraction / 1000000)
  | 'J' => (Number.plainLayout.write (julianDay t)).toList
  | '%' => ['%']
  | c => ['%', c]

/-- A time by a format: each `%` and the character after it are a conversion. -/
def formatTime (t : WallTime) : List Char → List Char
  | [] => []
  | ['%'] => ['%']
  | '%' :: c :: cs => conversion t c ++ formatTime t cs
  | c :: cs => c :: formatTime t cs

namespace Call

/-- A call of a function that shows the time its arguments stand for. -/
def showTime (f : Builtin) (ctx : Context) (args : List Value) (render : WallTime → Value) :
    Except EvalError Value := do
  let some t ← resolveTime f ctx args | return .null
  return render t

/-- A call of `strftime`. -/
def ofStrFTime (ctx : Context) : List Value → Except EvalError Value
  | [] => .ok .null
  | format :: args => do
    let some s ← Builtin.strFTime.asTextArg 0 format | return .null
    showTime .strFTime ctx args fun t => .text (String.ofList (formatTime t s.toList))

/-- A call of a function on dates and times; nothing for other functions. -/
def onDates? (f : Builtin) (ctx : Context) (args : List Value) : Option (Except EvalError Value) :=
  match f with
  | .now => some (.ok (.dateTime ctx.now))
  | .date => some (showTime f ctx args fun t => .text (String.ofList t.date.text))
  | .time => some (showTime f ctx args fun t => .text (String.ofList t.clockText))
  | .dateTime => some (showTime f ctx args fun t => .text (String.ofList (t.text ' ')))
  | .unixEpoch => some (showTime f ctx args fun t => .integer (Int64.ofInt t.seconds))
  | .strFTime => some (ofStrFTime ctx args)
  | _ => none

end Call

end SqlFormula
