/-!
# Base64

Three bytes are written as four characters of a 64-letter alphabet, and a last group of one or two
bytes is filled up with `=`. Reading accepts exactly the written forms: the filling must be there and
the bits that it leaves over must be zero.
-/

namespace SqlFormula.Text.Base64

/-- The character for a number below 64. -/
def letter (n : Nat) : Char :=
  if n < 26 then Char.ofNat ('A'.toNat + n)
  else if n < 52 then Char.ofNat ('a'.toNat + (n - 26))
  else if n < 62 then Char.ofNat ('0'.toNat + (n - 52))
  else if n = 62 then '+'
  else '/'

/-- The number that a character of the alphabet stands for. -/
def letter? (c : Char) : Option Nat :=
  if 'A' ≤ c ∧ c ≤ 'Z' then some (c.toNat - 'A'.toNat)
  else if 'a' ≤ c ∧ c ≤ 'z' then some (c.toNat - 'a'.toNat + 26)
  else if '0' ≤ c ∧ c ≤ '9' then some (c.toNat - '0'.toNat + 52)
  else if c = '+' then some 62
  else if c = '/' then some 63
  else none

/-- Writes bytes. -/
def encode : List UInt8 → List Char
  | [] => []
  | [a] => [letter (a.toNat / 4), letter (a.toNat % 4 * 16), '=', '=']
  | [a, b] =>
    [letter (a.toNat / 4), letter (a.toNat % 4 * 16 + b.toNat / 16), letter (b.toNat % 16 * 4), '=']
  | a :: b :: c :: rest =>
    letter (a.toNat / 4) :: letter (a.toNat % 4 * 16 + b.toNat / 16) ::
      letter (b.toNat % 16 * 4 + c.toNat / 64) :: letter (c.toNat % 64) :: encode rest

/-- The bytes of a last group: one byte before `==`, two before `=`. -/
def decodeLast (x y : Nat) : Option Nat → Option (List UInt8)
  | none => if y % 16 = 0 then some [UInt8.ofNat (x * 4 + y / 16)] else none
  | some z =>
    if z % 4 = 0 then some [UInt8.ofNat (x * 4 + y / 16), UInt8.ofNat (y % 16 * 16 + z / 4)]
    else none

/-- Reads what `encode` writes. -/
def decode : List Char → Option (List UInt8)
  | [] => some []
  | [a, b, '=', '='] => do decodeLast (← letter? a) (← letter? b) none
  | [a, b, c, '='] => do decodeLast (← letter? a) (← letter? b) (some (← letter? c))
  | a :: b :: c :: d :: rest => do
    let x ← letter? a
    let y ← letter? b
    let z ← letter? c
    let w ← letter? d
    let bytes ← decode rest
    pure (UInt8.ofNat (x * 4 + y / 16) :: UInt8.ofNat (y % 16 * 16 + z / 4) ::
      UInt8.ofNat (z % 4 * 64 + w) :: bytes)
  | _ => none

end SqlFormula.Text.Base64
