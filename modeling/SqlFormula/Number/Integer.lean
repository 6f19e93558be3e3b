/-!
# Integers of 64 bits

Integer values are signed and have 64 bits. Sums and products are formed among all integers and then
tested for whether they fit.

## Main definitions

- `int64?` — the 64-bit integer equal to an integer, if it fits
- `readInteger?`, `readInt64?` — an integer from its decimal text
-/

namespace SqlFormula.Number

/-- Whether an integer fits into 64 bits with a sign. -/
def Fits (i : Int) : Prop :=
  -9223372036854775808 ≤ i ∧ i ≤ 9223372036854775807

instance (i : Int) : Decidable (Fits i) :=
  inferInstanceAs (Decidable (_ ∧ _))

/-- The 64-bit integer equal to `i`, if `i` fits. -/
def int64? (i : Int) : Option Int64 :=
  if Fits i then some (Int64.ofInt i) else none

/-- The 64-bit integer nearest to `i`. -/
def int64Nearest (i : Int) : Int64 :=
  if i < -9223372036854775808 then Int64.minValue
  else if 9223372036854775807 < i then Int64.maxValue
  else Int64.ofInt i

/-- The number that decimal digits stand for. -/
def digitsValue (cs : List Char) : Nat :=
  cs.foldl (fun n c => 10 * n + (c.toNat - '0'.toNat)) 0

/-- A number in decimal digits: at least one, and nothing else. -/
def readNat? (cs : List Char) : Option Nat :=
  if cs.isEmpty || !cs.all Char.isDigit then none else some (digitsValue cs)

/-- A number in decimal digits, with a plus sign before it or not. -/
def readUnsigned? : List Char → Option Nat
  | '+' :: cs => readNat? cs
  | cs => readNat? cs

/-- An integer in decimal digits, with a sign before it or not. -/
def readInteger? : List Char → Option Int
  | '+' :: cs => (readNat? cs).map Int.ofNat
  | '-' :: cs => (readNat? cs).map fun n => -(n : Int)
  | cs => (readNat? cs).map Int.ofNat

/-- A 64-bit integer in decimal digits, with a sign before it or not. -/
def readInt64? (cs : List Char) : Option Int64 :=
  (readInteger? cs).bind int64?

end SqlFormula.Number
