import SqlFormula.Number.Shortest

/-!
# Texts of doubles

A double is written with the shortest decimal that reads back as it. Formats differ in how the digits
are laid out: where a power of ten is split off, whether whole numbers keep a fraction, and which of
two equally near decimals is taken.

## Main definitions

- `Layout` — the decisions of a format
- `Layout.write` — the text of a double
-/

namespace SqlFormula.Number

/-- How doubles are laid out. -/
structure Layout where
  /-- The decimal exponents of numbers that are written without a power of ten, from the first up to but
  not including the second; all of them if there are no bounds. -/
  plain : Option (Int × Int)
  /-- Whether a whole number is written with the fraction `.0`. -/
  wholeFraction : Bool
  /-- Whether a power of ten that is not negative is written with a plus sign. -/
  signedPower : Bool
  /-- Which of two equally near decimals is written. -/
  tie : Tie

namespace Layout

/-- The digits with a point after the first `point` of them, filled up with zeros where needed. -/
def placePoint (digits : List Char) (point : Int) (wholeFraction : Bool) : List Char :=
  if point ≤ 0 then
    '0' :: '.' :: (List.replicate (-point).toNat '0' ++ digits)
  else
    let n := point.toNat
    if digits.length ≤ n then
      digits ++ List.replicate (n - digits.length) '0' ++ (if wholeFraction then ['.', '0'] else [])
    else digits.take n ++ '.' :: digits.drop n

/-- The digits with a point after the first, and a power of ten. -/
def splitPower (digits : List Char) (power : Int) (signedPower : Bool) : List Char :=
  let mantissa := match digits with
    | [] => []
    | [d] => [d]
    | d :: ds => d :: '.' :: ds
  let sign := if power < 0 then ['-'] else if signedPower then ['+'] else []
  mantissa ++ 'e' :: sign ++ Nat.toDigits 10 power.natAbs

/-- The digits of a decimal, laid out. -/
def writeDecimal (l : Layout) (d : Decimal) : List Char :=
  let digits := Nat.toDigits 10 d.digits
  let power := d.exponent + digits.length - 1
  let isPlain := match l.plain with
    | none => true
    | some (least, bound) => d.digits == 0 || (least ≤ power && power < bound)
  if isPlain then placePoint digits (power + 1) l.wholeFraction
  else splitPower digits power l.signedPower

/-- The text of a double. -/
def write (l : Layout) (x : Float) : String :=
  match parts x with
  | .nan => "NaN"
  | .infinite negative => if negative then "-inf" else "inf"
  | .finite negative m q =>
    let text := l.writeDecimal (shortest l.tie m q)
    String.ofList (if negative then '-' :: text else text)

end Layout

/-- Doubles in plain notation, whatever their size, and whole numbers without a fraction. -/
def plainLayout : Layout where
  plain := none
  wholeFraction := false
  signedPower := false
  tie := .upward

/-- Doubles that are always recognisable as such: whole numbers keep the fraction `.0`, and below `1e-4` and
from `1e16` on a power of ten is split off. -/
def exactLayout : Layout where
  plain := some (-4, 16)
  wholeFraction := true
  signedPower := false
  tie := .upward

/-- The text of a double in a formula: whole numbers below `10 ^ 15` keep the fraction `.0`, and all others are
in plain notation. -/
def formatFloat (x : Float) : String :=
  if isWhole x && x.abs < 1e15 then plainLayout.write x ++ ".0" else plainLayout.write x

end SqlFormula.Number
