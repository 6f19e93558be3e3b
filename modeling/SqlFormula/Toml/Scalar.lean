import SqlFormula.Calendar
import SqlFormula.Number.Integer
import SqlFormula.Number.Reading
import SqlFormula.Text.Hex
import SqlFormula.Text.Parts
import SqlFormula.Toml

/-!
# Numbers and dates in TOML

## Main definitions

- `Toml.integer?`, `Toml.float?` — numbers from their texts
- `Toml.isDate`, `Toml.isTime`, `Toml.isDateTime` — dates and times of day
- `Toml.scalar?` — any of them, or one of the words for truth values
-/

namespace SqlFormula.Toml

open Number (digitsValue splitSign)

/-! ### Numbers -/

/-- The digits of a number without the underscores, of which each has to stand between two digits. -/
def plainDigits? (isDigit : Char → Bool) (cs : List Char) : Option (List Char) :=
  let groups := Text.splitAt '_' cs
  if groups.all fun g => !g.isEmpty && g.all isDigit then some groups.flatten else none

/-- The digits of a decimal integer, without superfluous zeros. -/
def wholeDigits? (cs : List Char) : Option (List Char) := do
  let digits ← plainDigits? Char.isDigit cs
  if 1 < digits.length ∧ digits.head? = some '0' then none else pure digits

/-- The number of digits in a base. -/
def valueIn? (base : Nat) (cs : List Char) : Option Nat := do
  let digits ← plainDigits? (fun c => (Text.Hex.digit? c).any (· < base)) cs
  pure (digits.foldl (fun n c => base * n + (Text.Hex.digit? c).getD 0) 0)

/-- An integer of 64 bits. -/
def within64Bits? (i : Int) : Option Toml :=
  if Number.Fits i then some (.integer i) else none

/-- An integer: decimal with a sign or not, or with a mark for its base and no sign. -/
def integer? : List Char → Option Toml
  | '0' :: 'x' :: cs => do within64Bits? (← valueIn? 16 cs)
  | '0' :: 'o' :: cs => do within64Bits? (← valueIn? 8 cs)
  | '0' :: 'b' :: cs => do within64Bits? (← valueIn? 2 cs)
  | cs => do
    let (negative, cs) := splitSign cs
    let n : Int := digitsValue (← wholeDigits? cs)
    within64Bits? (if negative then -n else n)

/-- Splits a text before the first character that satisfies `p`. -/
def splitBefore (p : Char → Bool) (cs : List Char) : List Char × List Char :=
  (cs.takeWhile (!p ·), cs.dropWhile (!p ·))

/-- The digits of a fraction after its point; nothing has none. -/
def fractionDigits? : List Char → Option (List Char)
  | [] => some []
  | _ :: cs => plainDigits? Char.isDigit cs

/-- The power of ten after its mark; nothing stands for zero. -/
def power? : List Char → Option Int
  | [] => some 0
  | _ :: cs => do
    let (negative, cs) := splitSign cs
    let n : Int := digitsValue (← plainDigits? Char.isDigit cs)
    pure (if negative then -n else n)

/-- A number with a fraction, a power of ten, or both. -/
def decimal? (negative : Bool) (cs : List Char) : Option Float := do
  let (mantissa, power) := splitBefore (fun c => c == 'e' || c == 'E') cs
  let (whole, fraction) := splitBefore (· == '.') mantissa
  guard !(fraction.isEmpty && power.isEmpty)
  let digits ← wholeDigits? whole
  let places ← fractionDigits? fraction
  let d : Number.DecimalText :=
    { negative, digits := digitsValue (digits ++ places), power := (← power? power) - places.length }
  pure (d.nearest Number.double)

/-- A number that is no integer, or one of the words `inf` and `nan`, with a sign or not. A number may lie
below all doubles, but not above them. -/
def float? (cs : List Char) : Option Toml := do
  let (negative, cs) := splitSign cs
  if cs = "inf".toList then pure (.float (Number.infinity negative))
  else if cs = "nan".toList then pure (.float (0.0 / 0.0))
  else
    let x ← decimal? negative cs
    if x == Number.infinity false then none else pure (.float x)

/-! ### Dates and times -/

/-- Whether a text has exactly `count` digits, whose number lies between two bounds. -/
def isNumber (count least most : Nat) (cs : List Char) : Bool :=
  cs.length = count && cs.all Char.isDigit && least ≤ digitsValue cs && digitsValue cs ≤ most

/-- Whether a text is a date: `2024-03-15`. -/
def isDate (cs : List Char) : Bool :=
  match Text.splitAt '-' cs with
  | [year, month, day] =>
    let date : Date := { year := digitsValue year, month := digitsValue month, day := digitsValue day }
    isNumber 4 0 9999 year && isNumber 2 1 12 month && isNumber 2 1 31 day && date.Exists
  | _ => false

/-- Whether a text is the second of a minute, with a fraction or not. -/
def isSecond (cs : List Char) : Bool :=
  match Text.splitAt '.' cs with
  | [second] => isNumber 2 0 60 second
  | [second, fraction] => isNumber 2 0 60 second && !fraction.isEmpty && fraction.all Char.isDigit
  | _ => false

/-- Whether a text is a time of day: `10:30:00.5`. -/
def isTime (cs : List Char) : Bool :=
  match Text.splitAt ':' cs with
  | [hour, minute, second] => isNumber 2 0 23 hour && isNumber 2 0 59 minute && isSecond second
  | _ => false

/-- Whether a text is an offset from UTC: `Z`, `+01:00`. -/
def isOffset : List Char → Bool
  | ['Z'] | ['z'] => true
  | sign :: cs =>
    (sign == '+' || sign == '-') &&
      match Text.splitAt ':' cs with
      | [hour, minute] => isNumber 2 0 23 hour && isNumber 2 0 59 minute
      | _ => false
  | [] => false

/-- Whether a text is a time of day, with an offset from UTC or not. -/
def isTimeWithOffset (cs : List Char) : Bool :=
  let (time, offset) := splitBefore (fun c => c == 'Z' || c == 'z' || c == '+' || c == '-') cs
  isTime time && (offset.isEmpty || isOffset offset)

/-- Whether a text is a date with a time of day after it. -/
def isDateTime (cs : List Char) : Bool :=
  let (date, time) := splitBefore (fun c => c == 'T' || c == 't' || c == ' ') cs
  isDate date && isTimeWithOffset (time.drop 1)

/-! ### All of them -/

/-- A number, a date or time, or a truth value. -/
def scalar? (cs : List Char) : Option Toml :=
  if cs = "true".toList then some (.boolean true)
  else if cs = "false".toList then some (.boolean false)
  else if isDate cs || isTime cs || isDateTime cs then some (.moment (String.ofList cs))
  else integer? cs <|> float? cs

end SqlFormula.Toml
