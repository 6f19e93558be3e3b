import SqlFormula.Eval.Arguments
import SqlFormula.Text.Parts

/-!
# Functions on texts

Positions count characters from 1.

## Main definitions

- `substr` — a part of a text
- `replaceAll` — a text with other parts in place of some
- `Call.onText?` — the functions of this family
-/

namespace SqlFormula

/-- Where a part begins and how many characters it has, in a text of `n` characters, for a start and a number of
characters. What would lie before the first character is taken off the number. Nothing if a number on the way leaves 64
bits. -/
def partFrom? (n start count : Int64) : Option (Int64 × Int64) :=
  if start < 0 then do
    let first ← Number.int64? (start.toInt + n.toInt)
    if first < 0 then do
      let rest ← Number.int64? (count.toInt + first.toInt)
      some (0, if rest < 0 then 0 else rest)
    else some (first, count)
  else if 0 < start then do
    let first ← Number.int64? (start.toInt - 1)
    some (first, count)
  else if 0 < count then do
    let rest ← Number.int64? (count.toInt - 1)
    some (0, rest)
  else some (0, count)

/-- The part with a number of characters that ends where another one begins. -/
def partBefore? (first count : Int64) : Option (Int64 × Int64) := do
  let before ← Number.int64? (first.toInt - count.toInt)
  if before < 0 then do
    let rest ← Number.int64? (count.toInt + before.toInt)
    some (0, rest)
  else some (before, count)

/-- The index nearest to a number, from 0 to the end of a text of `n` characters. -/
def indexIn (n i : Int64) : Nat :=
  (max 0 (min i.toInt n.toInt)).toNat

/-- The characters from the position `start` on, `length` of them or all. A negative start counts from the end, a
negative length takes the characters before the start, and position 0 lies before the first character. Nothing if a
number on the way leaves 64 bits. -/
def substr (cs : List Char) (start : Int64) (length : Option Int64) : Option (List Char) := do
  let n := Int64.ofNat cs.length
  let wanted := length.getD (Number.int64Nearest (n.toInt + 1))
  let count := if wanted < 0 then Number.int64Nearest (-wanted.toInt) else wanted
  let (first, count) ← partFrom? n start count
  let (first, count) ← if wanted < 0 then partBefore? first count else some (first, count)
  let last := Number.int64Nearest (first.toInt + count.toInt)
  some ((cs.drop (indexIn n first)).take (indexIn n last - indexIn n first))

/-- The text with `into` in place of every occurrence of `part`, from left to right; `skip` characters of an
occurrence are still to be dropped. -/
def replaceFrom (part into : List Char) (skip : Nat) : List Char → List Char
  | [] => []
  | c :: cs =>
    match skip with
    | more + 1 => replaceFrom part into more cs
    | 0 =>
      if part.isPrefixOf (c :: cs) then into ++ replaceFrom part into (part.length - 1) cs
      else c :: replaceFrom part into 0 cs

/-- The text with another part in place of every occurrence of a part; an empty part does not occur. -/
def replaceAll (s part into : String) : String :=
  if part.isEmpty then s else String.ofList (replaceFrom part.toList into.toList 0 s.toList)

/-- The position of the first occurrence of a part; 0 if there is none. -/
def positionOf (s part : String) : Nat :=
  match Text.find? part.toList s.toList with
  | some n => n + 1
  | none => 0

/-- The characters of a set at the beginning, at the end or at both ends of a text are dropped. -/
def trimSet (f : Builtin) (set : List Char) (cs : List Char) : List Char :=
  let inSet (c : Char) : Bool := set.contains c
  match f with
  | .ltrim => cs.dropWhile inSet
  | .rtrim => Text.dropEndWhile inSet cs
  | _ => Text.dropEndWhile inSet (cs.dropWhile inSet)

/-- The character with a code, if there is one. -/
def charOfCode? (code : Int) : Option Char :=
  if 0 ≤ code ∧ code.toNat.isValidChar then some (Char.ofNat code.toNat) else none

/-- A natural number as a value. -/
def Value.ofNat (n : Nat) : Value :=
  .integer (Int64.ofNat n)

namespace Call

/-- The length of a value: characters of texts, bytes of blobs, items and entries. -/
def lengthOf : Value → Value
  | .null => .null
  | .blob bytes => .ofNat bytes.length
  | .array items => .ofNat items.length
  | .object entries => .ofNat entries.length
  | v => .ofNat v.display.length

/-- The text arguments, without those that are NULL. -/
def textArgs (f : Builtin) (index : Nat) : List Value → Except EvalError (List String)
  | [] => .ok []
  | v :: vs => do
    let s? ← f.asTextArg index v
    let rest ← textArgs f (index + 1) vs
    pure (s?.toList ++ rest)

/-- The integer arguments, without those that are NULL. -/
def integerArgs (f : Builtin) (index : Nat) : List Value → Except EvalError (List Int64)
  | [] => .ok []
  | v :: vs => do
    let i? ← f.asIntegerArg index v
    let rest ← integerArgs f (index + 1) vs
    pure (i?.toList ++ rest)

/-- A part of a text as a value. -/
def partOf (s : String) (start : Int64) (length : Option Int64) : Except EvalError Value :=
  match substr s.toList start length with
  | some cs => .ok (.text (String.ofList cs))
  | none => .error (.positionOutOfRange Builtin.substr.name)

/-- A call of `substr`. -/
def ofSubstr (args : List Value) : Except EvalError Value := do
  let some s ← Builtin.substr.textArg args 0 | return .null
  let some start ← Builtin.substr.integerArg args 1 | return .null
  match args[2]? with
  | none => partOf s start none
  | some _ =>
    let some length ← Builtin.substr.integerArg args 2 | return .null
    partOf s start (some length)

/-- A call of one of the trimming functions; blanks are dropped if no set is given. -/
def ofTrim (f : Builtin) (args : List Value) : Except EvalError Value := do
  let some s ← f.textArg args 0 | return .null
  match args[1]? with
  | none => return .text (String.ofList (trimSet f [' '] s.toList))
  | some _ =>
    let some set ← f.textArg args 1 | return .null
    return .text (String.ofList (trimSet f set.toList s.toList))

/-- A call of `replace`. -/
def ofReplace (args : List Value) : Except EvalError Value := do
  let s? ← Builtin.replace.textArg args 0
  let part? ← Builtin.replace.textArg args 1
  let into? ← Builtin.replace.textArg args 2
  match s?, part?, into? with
  | some s, some part, some into => return .text (replaceAll s part into)
  | _, _, _ => return .null

/-- A call of `instr`. -/
def ofInstr (args : List Value) : Except EvalError Value := do
  let s? ← Builtin.instr.textArg args 0
  let part? ← Builtin.instr.textArg args 1
  match s?, part? with
  | some s, some part => return .ofNat (positionOf s part)
  | _, _ => return .null

/-- A call of `hex`; NULL has no digits. -/
def ofHex (args : List Value) : Except EvalError Value := do
  match ← Builtin.hex.argument args 0 with
  | .null => return .text ""
  | .blob bytes => return .text (Text.Hex.encodeUpper bytes)
  | _ =>
    let some s ← Builtin.hex.textArg args 0 | return .null
    return .text (Text.Hex.encodeUpper (Text.bytesOf s))

/-- A call of `unicode`. -/
def ofUnicode (args : List Value) : Except EvalError Value := do
  let some s ← Builtin.unicode.textArg args 0 | return .null
  match s.toList with
  | c :: _ => return .ofNat c.toNat
  | [] => return .null

/-- A function from text to text, applied to the first argument. -/
def mapText (f : Builtin) (map : String → String) (args : List Value) : Except EvalError Value := do
  let some s ← f.textArg args 0 | return .null
  return .text (map s)

/-- A call of a function on texts; nothing for other functions. -/
def onText? (f : Builtin) (args : List Value) : Option (Except EvalError Value) :=
  match f with
  | .upper => some (mapText f Text.upper args)
  | .lower => some (mapText f Text.lower args)
  | .length => some do
    return lengthOf (← f.argument args 0)
  | .substr => some (ofSubstr args)
  | .trim | .ltrim | .rtrim => some (ofTrim f args)
  | .replace => some (ofReplace args)
  | .instr => some (ofInstr args)
  | .concat => some do
    return .text (String.join (← textArgs f 0 args))
  | .hex => some (ofHex args)
  | .char => some do
    return .text (String.ofList ((← integerArgs f 0 args).filterMap fun i => charOfCode? i.toInt))
  | .unicode => some (ofUnicode args)
  | _ => none

end Call

end SqlFormula
