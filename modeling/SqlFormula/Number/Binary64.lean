import SqlFormula.Number.Integer

/-!
# Doubles, taken apart

A double is a NaN, an infinity, or a sign with a value `m · 2 ^ q`. Operations that are exact, such as
rounding to an integer and the remainder of a division, are done on `m` and `q`.

## Main definitions

- `Parts`, `parts` — what a double stands for
- `assemble` — the double with a given sign and value
- `nearest` — the double, or the single, nearest to a quotient
- `floor`, `ceil`, `round`, `truncate?`, `remainder`
- `ofInt64`, `toInt64Nearest` — conversion from and to integers
-/

namespace SqlFormula.Number

/-- What a double stands for: `finite negative m q` is `m · 2 ^ q` with a sign. -/
inductive Parts where
  | nan
  | infinite (negative : Bool)
  | finite (negative : Bool) (m : Nat) (q : Int)
  deriving DecidableEq, Repr

/-- The exponent of the least positive double. -/
def leastExponent : Int := -1074

/-- Takes a double apart. -/
def parts (x : Float) : Parts :=
  let bits : Nat := x.toBits.toNat
  let negative := bits / Nat.pow 2 63 == 1
  let exponent : Nat := bits / Nat.pow 2 52 % Nat.pow 2 11
  let fraction := bits % Nat.pow 2 52
  if exponent = 2047 then
    if fraction = 0 then .infinite negative else .nan
  else if exponent = 0 then .finite negative fraction leastExponent
  else .finite negative (fraction + Nat.pow 2 52) ((exponent : Int) - 1075)

/-- The double with a sign and the value `m · 2 ^ q`, which has to be the value of a double. -/
def assemble (negative : Bool) (m : Nat) (q : Int) : Float :=
  let sign := if negative then Nat.pow 2 63 else 0
  if m = 0 then Float.ofBits (UInt64.ofNat sign)
  else
    -- the exponent for which the mantissa has 53 bits, unless that is below the least one
    let target := max ((m.log2 : Int) - 52 + q) leastExponent
    let mantissa := if q ≤ target then m / Nat.pow 2 (target - q).toNat else m * Nat.pow 2 (q - target).toNat
    let exponent := if mantissa < Nat.pow 2 52 then 0 else (target + 1075).toNat
    Float.ofBits (UInt64.ofNat (sign + exponent * Nat.pow 2 52 + mantissa % Nat.pow 2 52))

/-- A format of binary numbers: the bits of a mantissa and the exponents it can have. -/
structure Format where
  bits : Nat
  least : Int
  greatest : Int
  deriving Repr

/-- The format of doubles. -/
def double : Format where
  bits := 53
  least := leastExponent
  greatest := 971

/-- The format of singles. -/
def single : Format where
  bits := 24
  least := -149
  greatest := 104

/-- The whole number nearest to `num / den`; of two equally near ones the even one. -/
def nearestNat (num den : Nat) : Nat :=
  let below := num / den
  let rest := num % den
  if 2 * rest < den then below
  else if den < 2 * rest then below + 1
  else below + below % 2

/-- The exponent of the greatest power of two that is not above `num / den`. -/
def ratioLog2 (num den : Nat) : Int :=
  let guess := (num.log2 : Int) - den.log2
  let reached := if 0 ≤ guess then den * Nat.pow 2 guess.toNat ≤ num else den ≤ num * Nat.pow 2 (-guess).toNat
  if reached then guess else guess - 1

/-- The number of a format that is nearest to `num / den`, as `m · 2 ^ q`; nothing if that is beyond its
greatest number. -/
def Format.nearest? (format : Format) (num den : Nat) : Option (Nat × Int) :=
  if num = 0 then some (0, format.least)
  else
    let q := max (ratioLog2 num den - (format.bits - 1 : Nat)) format.least
    let m := if 0 ≤ q then nearestNat num (den * Nat.pow 2 q.toNat) else nearestNat (num * Nat.pow 2 (-q).toNat) den
    if format.greatest < q ∨ (q = format.greatest ∧ m = Nat.pow 2 format.bits) then none else some (m, q)

/-- The infinity with a sign. -/
def infinity (negative : Bool) : Float :=
  if negative then -1.0 / 0.0 else 1.0 / 0.0

/-- The double with a sign that is nearest to `num / den` in a format no wider than that of doubles. -/
def nearest (format : Format) (negative : Bool) (num den : Nat) : Float :=
  match format.nearest? num den with
  | some (m, q) => assemble negative m q
  | none => infinity negative

/-- The double nearest to an integer. -/
def ofInt (i : Int) : Float :=
  nearest double (i < 0) i.natAbs 1

/-- The double nearest to an integer. -/
def ofInt64 (i : Int64) : Float :=
  ofInt i.toInt

/-- The single nearest to a double. -/
def toSingle (x : Float) : Float :=
  match parts x with
  | .finite negative m q =>
    if 0 ≤ q then nearest single negative (m * Nat.pow 2 q.toNat) 1
    else nearest single negative m (Nat.pow 2 (-q).toNat)
  | _ => x

/-- Whether a double is a number: no NaN and no infinity. -/
def isFinite (x : Float) : Bool :=
  match parts x with
  | .finite .. => true
  | _ => false

/-- The whole part of `m · 2 ^ q` and whether anything is left over. -/
def wholePart (m : Nat) (q : Int) : Nat × Bool :=
  if 0 ≤ q then (m * Nat.pow 2 q.toNat, false)
  else
    let unit := Nat.pow 2 (-q).toNat
    (m / unit, m % unit != 0)

/-- Whether a double is a whole number. -/
def isWhole (x : Float) : Bool :=
  match parts x with
  | .finite _ m q => !(wholePart m q).2
  | _ => false

/-- Drops the fraction of a double. -/
def truncate? (x : Float) : Option Int :=
  match parts x with
  | .finite negative m q =>
    let n := (wholePart m q).1
    some (if negative then -(n : Int) else n)
  | _ => none

/-- The greatest whole number that is not above a double. -/
def floor (x : Float) : Float :=
  match parts x with
  | .finite negative m q =>
    let (n, more) := wholePart m q
    if !more then x else assemble negative (if negative then n + 1 else n) 0
  | _ => x

/-- The least whole number that is not below a double. -/
def ceil (x : Float) : Float :=
  match parts x with
  | .finite negative m q =>
    let (n, more) := wholePart m q
    if !more then x else assemble negative (if negative then n else n + 1) 0
  | _ => x

/-- The whole number nearest to a double; a half goes away from zero. -/
def round (x : Float) : Float :=
  match parts x with
  | .finite negative m q =>
    let (n, more) := wholePart m q
    if !more then x
    else
      -- twice the value, without its fraction, tells on which side of the half it lies
      let doubled := (wholePart (2 * m) q).1
      assemble negative (if doubled % 2 = 1 then n + 1 else n) 0
  | _ => x

/-- The remainder of a division whose quotient is rounded toward zero; it has the sign of `x`. -/
def remainder (x y : Float) : Float :=
  match parts x, parts y with
  | .finite negative m q, .finite _ n r =>
    if n = 0 then 0.0 / 0.0
    else
      let s := min q r
      let a := m * Nat.pow 2 (q - s).toNat
      let b := n * Nat.pow 2 (r - s).toNat
      assemble negative (a % b) s
  | .finite .., .infinite _ => x
  | _, _ => 0.0 / 0.0

/-- The 64-bit integer nearest to the whole part of a double; zero for a NaN. -/
def toInt64Nearest (x : Float) : Int64 :=
  match parts x with
  | .nan => 0
  | .infinite negative => if negative then Int64.minValue else Int64.maxValue
  | .finite negative m q =>
    let n := (wholePart m q).1
    int64Nearest (if negative then -(n : Int) else n)

end SqlFormula.Number
