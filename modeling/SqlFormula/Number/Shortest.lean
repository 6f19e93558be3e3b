import SqlFormula.Number.Binary64

/-!
# The shortest decimal of a double

Every real number in an interval around a double rounds to that double when it is read. The shortest
decimal is the one with the fewest digits in this interval, and of those the nearest to the double.
It is found on the decimal grids, coarsest first: if any point of a grid lies in the interval, then one
of the two neighbours of the double on that grid does.

All arithmetic is exact. The double `m · 2 ^ q` and the ends of its interval are whole multiples of
`2 ^ (q - 2)`.

## Main definitions

- `Decimal` — digits and a power of ten
- `shortest` — the shortest decimal of `m · 2 ^ q`
-/

namespace SqlFormula.Number

/-- The number `digits · 10 ^ exponent`. -/
structure Decimal where
  digits : Nat
  exponent : Int
  deriving DecidableEq, Repr

/-- Which of two equally near decimals is taken. -/
inductive Tie where
  | upward
  | toEven
  deriving DecidableEq, Repr

/-- The double `m · 2 ^ q` and the ends of its interval in units of `2 ^ (q - 2)`. -/
structure Interval where
  low : Nat
  middle : Nat
  high : Nat
  /-- Whether the ends themselves round to the double. -/
  closed : Bool

/-- The interval of the double `m · 2 ^ q`. Below a power of two the doubles lie twice as dense. -/
def interval (m : Nat) (q : Int) : Interval where
  low := if m = Nat.pow 2 52 ∧ leastExponent < q then 4 * m - 1 else 4 * m - 2
  middle := 4 * m
  high := 4 * m + 2
  closed := m % 2 = 0

/-- A multiple `n` of `2 ^ e` and a multiple of `10 ^ k` brought to a common unit: the factor of `n` and
the factor of the other. -/
def commonUnit (e k : Int) : Nat × Nat :=
  ((if 0 ≤ e then Nat.pow 2 e.toNat else 1) * (if 0 ≤ k then 1 else Nat.pow 10 (-k).toNat),
    (if 0 ≤ e then 1 else Nat.pow 2 (-e).toNat) * (if 0 ≤ k then Nat.pow 10 k.toNat else 1))

/-- The multiple of `10 ^ k` that is nearest to the double among its two neighbours on that grid, if one
of them lies in the interval. -/
def nearestOnGrid (tie : Tie) (i : Interval) (e k : Int) : Option Nat :=
  let (binary, decimal) := commonUnit e k
  let middle := i.middle * binary
  let inside (c : Nat) : Bool :=
    let x := c * decimal
    if i.closed then i.low * binary ≤ x && x ≤ i.high * binary
    else i.low * binary < x && x < i.high * binary
  let below := middle / decimal
  let above := below + 1
  match inside below, inside above with
  | false, false => none
  | true, false => some below
  | false, true => some above
  | true, true =>
    let down := middle - below * decimal
    let up := above * decimal - middle
    some (if down < up then below
      else if up < down then above
      else match tie with
        | .upward => above
        | .toEven => if below % 2 = 0 then below else above)

/-- The number of decimal digits of `n`. -/
def digitCount (n : Nat) : Nat :=
  (Nat.toDigits 10 n).length

/-- The greatest `k` with `10 ^ k ≤ m · 2 ^ q`, for a positive double. -/
def leadingExponent (m : Nat) (q : Int) : Int :=
  -- times `10 ^ 400`, every positive double is at least one
  let (binary, _) := commonUnit q (-400)
  let scaled := if 0 ≤ q then m * binary else m * Nat.pow 10 400 / Nat.pow 2 (-q).toNat
  (digitCount scaled : Int) - 1 - 400

/-- Removes the factors of ten that the digits end in. -/
def Decimal.normalize (fuel : Nat) (d : Decimal) : Decimal :=
  match fuel with
  | 0 => d
  | fuel + 1 =>
    if d.digits ≠ 0 ∧ d.digits % 10 = 0 then
      Decimal.normalize fuel { digits := d.digits / 10, exponent := d.exponent + 1 }
    else d

/-- Searches the grids of `10 ^ k`, `10 ^ (k - 1)` and so on for the first that has a point in the
interval. Seventeen digits are always enough. -/
def searchGrids (tie : Tie) (i : Interval) (e : Int) : Nat → Int → Decimal
  | 0, k => { digits := (nearestOnGrid tie i e k).getD 0, exponent := k }
  | more + 1, k =>
    match nearestOnGrid tie i e k with
    | some c => { digits := c, exponent := k }
    | none => searchGrids tie i e more (k - 1)

/-- The shortest decimal of the double `m · 2 ^ q`. -/
def shortest (tie : Tie) (m : Nat) (q : Int) : Decimal :=
  if m = 0 then { digits := 0, exponent := 0 }
  else
    (searchGrids tie (interval m q) (q - 2) 17 (leadingExponent m q)).normalize 20

end SqlFormula.Number
