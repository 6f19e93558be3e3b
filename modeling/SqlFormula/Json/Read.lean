import SqlFormula.Json
import SqlFormula.Number.Reading
import SqlFormula.Text.Reading

/-!
# Reading JSON

A text is read as one document. Integers of 64 bits, with a sign or without, stay integers; every other
number becomes a double, formed from its leading digits, as many as fit into 64 bits, and a power of
ten. This is not always the nearest double. A number beyond the doubles is an error, and so is nesting
beyond a limit.

## Main definitions

- `Json.numberOf?` — a number from its text
- `Json.readString?` — a string after its opening quote
- `Json.read?` — a document from its text
-/

namespace SqlFormula

namespace Json

open Number (digitsValue)

/-! ### Numbers -/

/-- The digits that fit into 64 bits together with `n`, as one number, and the digits that follow them. -/
def takeDigits (n : Nat) : List Char → Nat × List Char
  | [] => (n, [])
  | c :: cs =>
    let next := 10 * n + (c.toNat - '0'.toNat)
    if next < 18446744073709551616 then takeDigits next cs else (n, c :: cs)

/-- The double nearest to a power of ten. -/
def powerOfTen (n : Nat) : Float :=
  Number.nearest Number.double false (Nat.pow 10 n) 1

/-- Multiplies by a power of ten; a negative power is a division, in steps that are within the doubles. -/
def scale (x : Float) (power : Int) : Option Float :=
  if power.natAbs ≤ 308 then
    if 0 ≤ power then
      let y := x * powerOfTen power.natAbs
      if Number.isFinite y then some y else none
    else some (x / powerOfTen power.natAbs)
  else if x == 0.0 then some x
  else if 0 ≤ power then none
  else scale (x / powerOfTen 308) (power + 308)
termination_by power.natAbs

/-- The double of a number with a fraction, with an exponent, or too large for an integer. -/
def floatOf? (negative : Bool) (whole fraction : List Char) (power : Int) : Option Json :=
  let (n, more) := takeDigits 0 whole
  let (n, left) := takeDigits n fraction
  let used := fraction.length - left.length
  (scale (Number.ofInt n) (power + more.length - used)).map fun x => .float (if negative then -x else x)

/-- A number without fraction and exponent. -/
def integerOf? (negative : Bool) (digits : List Char) : Option Json :=
  let n := digitsValue digits
  if negative then
    if n = 0 ∨ 9223372036854775808 < n then floatOf? negative digits [] 0 else some (.integer (-n))
  else if n < 18446744073709551616 then some (.integer n)
  else floatOf? negative digits [] 0

/-- The exponent at the end of a number. -/
def exponentOf? : List Char → Option Int
  | [] => none
  | c :: cs => if c = 'e' ∨ c = 'E' then Number.readInteger? cs else none

/-- Whether digits can stand before the point: at least one, and no superfluous zero. -/
def isWholePart : List Char → Bool
  | [] => false
  | [_] => true
  | c :: _ => c != '0'

/-- A number from its text. -/
def numberOf? (cs : List Char) : Option Json :=
  let (negative, cs) := match cs with
    | '-' :: cs => (true, cs)
    | cs => (false, cs)
  let whole := cs.takeWhile Char.isDigit
  let rest := cs.dropWhile Char.isDigit
  if !isWholePart whole then none
  else match rest with
    | [] => integerOf? negative whole
    | '.' :: rest =>
      let fraction := rest.takeWhile Char.isDigit
      let rest := rest.dropWhile Char.isDigit
      if fraction.isEmpty then none
      else if rest.isEmpty then floatOf? negative whole fraction 0
      else do floatOf? negative whole fraction (← exponentOf? rest)
    | rest => do floatOf? negative whole [] (← exponentOf? rest)

/-! ### Strings -/

/-- The character that a backslash and another one stand for. -/
def escaped? (c : Char) : Option Char :=
  if c = '"' ∨ c = '\\' ∨ c = '/' then some c
  else if c = 'n' then some '\n'
  else if c = 'r' then some '\r'
  else if c = 't' then some '\t'
  else if c = 'b' then some (Char.ofNat 8)
  else if c = 'f' then some (Char.ofNat 12)
  else none

/-- The number of four hexadecimal digits. -/
def unit? (a b c d : Char) : Option Nat := do
  let h ← Text.Hex.digit? a
  let i ← Text.Hex.digit? b
  let j ← Text.Hex.digit? c
  let k ← Text.Hex.digit? d
  pure (((h * 16 + i) * 16 + j) * 16 + k)

/-- Reads a string up to its closing quote: `read` has the characters so far, the last one first, and
`taken` counts what was read. Characters beyond 16 bits are written as two surrogates. -/
def readStringFrom (read : List Char) (taken : Nat) : List Char → Option (List Char × Nat)
  | [] => none
  | '"' :: _ => some (read.reverse, taken + 1)
  | '\\' :: 'u' :: a :: b :: c :: d :: rest => do
    let high ← unit? a b c d
    if high < 0xD800 ∨ 0xDFFF < high then readStringFrom (Char.ofNat high :: read) (taken + 6) rest
    else match rest with
      | '\\' :: 'u' :: a :: b :: c :: d :: rest => do
        let low ← unit? a b c d
        if high < 0xDC00 ∧ 0xDC00 ≤ low ∧ low ≤ 0xDFFF then
          let n := 0x10000 + (high - 0xD800) * 0x400 + (low - 0xDC00)
          readStringFrom (Char.ofNat n :: read) (taken + 12) rest
        else none
      | _ => none
  | '\\' :: c :: rest => do
    readStringFrom ((← escaped? c) :: read) (taken + 2) rest
  | c :: rest => if c.toNat < 0x20 then none else readStringFrom (c :: read) (taken + 1) rest

/-- Reads a string after its opening quote: its text, and how many characters it takes. -/
def readString? (cs : List Char) : Option (String × Nat) :=
  (readStringFrom [] 0 cs).map fun (read, taken) => (String.ofList read, taken)

/-! ### Documents -/

open Reader TextReader

/-- A character that may stand between any two parts of a document. -/
def isSpace (c : Char) : Bool :=
  c == ' ' || c == '\n' || c == '\t' || c == '\r'

/-- Reads blanks. -/
def spaces : TextReader Unit := do
  let _ ← takeWhile isSpace

/-- Reads a string with its opening quote. -/
def string : TextReader String := do
  mark '"'
  let (content, taken) ← given (readString? (← ahead))
  skip taken
  pure content

/-- A character that can occur in a number. -/
def isNumberChar (c : Char) : Bool :=
  c.isDigit || c == '-' || c == '+' || c == '.' || c == 'e' || c == 'E'

/-- What follows an item: the end of the array or object, or a comma and another item. -/
def isOpen (closing : Char) (cs : List Char) : Option Unit :=
  if cs.head? = some closing then none else some ()

/-- Reads a comma, which has to be there, and the next item of an array or object. -/
def another {α : Type} (item : TextReader α) (items : List α) : TextReader (List α) := do
  mark ','
  spaces
  let a ← item
  spaces
  pure (a :: items)

/-- Reads items up to a closing bracket, after the opening one. -/
def itemsUntil {α : Type} (closing : Char) (item : TextReader α) : TextReader (List α) := do
  spaces
  if (← peek?) = some closing then
    skip 1
    pure []
  else
    let first ← item
    spaces
    let items ← loop (isOpen closing) (fun _ items => another item items)
      (fun _ _ => (consuming_mark ',').bind_left _) [first]
    mark closing
    pure items.reverse

/-- Reads a member of an object. -/
def member (item : TextReader Json) : TextReader (String × Json) := do
  let name ← string
  spaces
  mark ':'
  spaces
  let j ← item
  pure (name, j)

/-- Reads a document that has no parts. -/
def scalar (c : Char) : TextReader Json := do
  if c = '"' then return .text (← string)
  else if c = 'n' then word "null" Json.null
  else if c = 't' then word "true" (Json.boolean true)
  else if c = 'f' then word "false" (Json.boolean false)
  else given (numberOf? (← takeWhile isNumberChar))

/-- Reads a document in which arrays and objects are nested less than `depth` deep. -/
def document : Nat → TextReader Json
  | 0 => refuse
  | depth + 1 =>
    let inner := document depth
    do
      match ← peek? with
      | none => refuse
      | some '[' =>
        skip 1
        if depth = 0 then refuse else return .array (← itemsUntil ']' inner)
      | some '\x7b' =>
        skip 1
        if depth = 0 then refuse
        else return .object (Entries.ofList (← itemsUntil '\x7d' (member inner)))
      | some c => scalar c

/-- Reads a text as one document, with blanks around it. -/
def readNested? (depth : Nat) (s : String) : Option Json :=
  let whole : TextReader Json := do
    spaces
    let j ← document depth
    spaces
    pure j
  whole.whole? s

/-- Reads a text as one document in which arrays and objects are nested less than 128 deep. -/
def read? (s : String) : Option Json :=
  readNested? 128 s

end Json

end SqlFormula
