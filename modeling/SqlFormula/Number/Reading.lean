import SqlFormula.Number.Binary64

/-!
# Doubles from decimal text

A decimal is a sign, digits with a point somewhere among them, and a power of ten. The double nearest to
it is taken, and of two equally near ones the one with an even mantissa.

## Main definitions

- `DecimalText` — a decimal as it is written
- `readDecimal?` — a decimal from its text
- `readFloat?`, `readFloat32?` — the double, or the single, nearest to a decimal; the words for the
  infinities and NaN are taken as well
-/

namespace SqlFormula.Number

/-- A decimal as it is written: `±digits · 10 ^ power`. -/
structure DecimalText where
  negative : Bool
  digits : Nat
  power : Int
  deriving DecidableEq, Repr

/-- An optional sign and what follows it. -/
def splitSign : List Char → Bool × List Char
  | '-' :: cs => (true, cs)
  | '+' :: cs => (false, cs)
  | cs => (false, cs)

/-- The power of ten at the end of a decimal: nothing, or `e` with an integer. -/
def readPower? : List Char → Option Int
  | [] => some 0
  | c :: cs => if c = 'e' ∨ c = 'E' then readInteger? cs else none

/-- The digits after a point, if there is one, and what follows them. -/
def splitPoint : List Char → List Char × List Char
  | '.' :: cs => (cs.takeWhile Char.isDigit, cs.dropWhile Char.isDigit)
  | cs => ([], cs)

/-- Reads a decimal: at least one digit, before or after the point. -/
def readDecimal? (cs : List Char) : Option DecimalText :=
  let (negative, cs) := splitSign cs
  let whole := cs.takeWhile Char.isDigit
  let (fraction, rest) := splitPoint (cs.dropWhile Char.isDigit)
  if whole.isEmpty && fraction.isEmpty then none
  else (readPower? rest).map fun power =>
    { negative, digits := digitsValue (whole ++ fraction), power := power - fraction.length }

/-- The number of digits before the point if the decimal is written without a power of ten. It tells when
a decimal is far too large or too small for a double, before any power of ten is formed. -/
def DecimalText.magnitude (d : DecimalText) : Int :=
  (Nat.toDigits 10 d.digits).length + d.power

/-- The number of a format that is nearest to a decimal. -/
def DecimalText.nearest (format : Format) (d : DecimalText) : Float :=
  if d.digits = 0 ∨ d.magnitude < -400 then assemble d.negative 0 0
  else if 400 < d.magnitude then infinity d.negative
  else if 0 ≤ d.power then Number.nearest format d.negative (d.digits * Nat.pow 10 d.power.toNat) 1
  else Number.nearest format d.negative d.digits (Nat.pow 10 (-d.power).toNat)

/-- The words for an infinity (`false`) and for NaN (`true`), in any case. -/
def readSpecial? (cs : List Char) : Option Bool :=
  let word := cs.map Char.toLower
  if word = "inf".toList ∨ word = "infinity".toList then some false
  else if word = "nan".toList then some true
  else none

/-- Reads a double: a decimal or one of the words `inf`, `infinity` and `nan` with an optional sign. -/
def readFloat? (cs : List Char) : Option Float :=
  let (negative, word) := splitSign cs
  match readSpecial? word with
  | some true => some (0.0 / 0.0)
  | some false => some (infinity negative)
  | none => (readDecimal? cs).map (DecimalText.nearest double)

/-- Reads a single, as a double. -/
def readFloat32? (cs : List Char) : Option Float :=
  let (negative, word) := splitSign cs
  match readSpecial? word with
  | some true => some (0.0 / 0.0)
  | some false => some (infinity negative)
  | none => (readDecimal? cs).map (DecimalText.nearest single)

end SqlFormula.Number
