/-!
# Hexadecimal text

A byte is written as two hexadecimal digits. Writing uses one case throughout, reading takes both.
-/

namespace SqlFormula.Text.Hex

/-- The upper-case digit of a number below 16. -/
def upperDigit (n : Nat) : Char :=
  if n < 10 then Char.ofNat ('0'.toNat + n) else Char.ofNat ('A'.toNat + (n - 10))

/-- The lower-case digit of a number below 16. -/
def lowerDigit (n : Nat) : Char :=
  if n < 10 then Char.ofNat ('0'.toNat + n) else Char.ofNat ('a'.toNat + (n - 10))

/-- The number that a hexadecimal digit stands for. -/
def digit? (c : Char) : Option Nat :=
  if '0' ≤ c ∧ c ≤ '9' then some (c.toNat - '0'.toNat)
  else if 'a' ≤ c ∧ c ≤ 'f' then some (c.toNat - 'a'.toNat + 10)
  else if 'A' ≤ c ∧ c ≤ 'F' then some (c.toNat - 'A'.toNat + 10)
  else none

/-- Writes each byte as two digits. -/
def encodeWith (digit : Nat → Char) (bytes : List UInt8) : List Char :=
  bytes.flatMap fun b => [digit (b.toNat / 16), digit (b.toNat % 16)]

/-- The bytes in upper-case digits. -/
def encodeUpper (bytes : List UInt8) : String :=
  String.ofList (encodeWith upperDigit bytes)

/-- The bytes in lower-case digits. -/
def encodeLower (bytes : List UInt8) : String :=
  String.ofList (encodeWith lowerDigit bytes)

/-- Reads pairs of digits; an odd number of digits and other characters are refused. -/
def decode : List Char → Option (List UInt8)
  | [] => some []
  | [_] => none
  | high :: low :: rest => do
    let h ← digit? high
    let l ← digit? low
    let bytes ← decode rest
    pure (UInt8.ofNat (16 * h + l) :: bytes)

end SqlFormula.Text.Hex
