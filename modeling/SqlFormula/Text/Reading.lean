import SqlFormula.Reader
import SqlFormula.Text.Hex

/-!
# Reading notations of characters

Notations that are refused as a whole share a few readers, whose only error is that what they read is
malformed.

## Main definitions

- `TextReader` — readers of characters that can only refuse
- `TextReader.mark`, `TextReader.word` — what has to come next
- `TextReader.given` — a result that may be missing
-/

namespace SqlFormula

/-- The only error of some readers: what they read does not have the form that it should have. -/
inductive Malformed where
  | malformed
  deriving DecidableEq, Repr

/-- Readers of characters that can only refuse. -/
abbrev TextReader := Reader Char Malformed

namespace TextReader

open Reader

/-- Refuses what comes next. -/
def refuse {α : Type} : TextReader α :=
  fail .malformed

/-- Reads one particular character. -/
def mark (c : Char) : TextReader Unit := do
  if (← next?) = some c then pure () else refuse

theorem consuming_mark (c : Char) : (mark c).Consuming :=
  Consuming.next?.bind_left _

/-- Reads a result that reading may not give. -/
def given {α : Type} : Option α → TextReader α
  | some a => pure a
  | none => refuse

/-- Reads letters, which have to be those of a word, for what the word means. -/
def word {α : Type} (letters : String) (meaning : α) : TextReader α := do
  if letters.toList.isPrefixOf (← ahead) then
    skip letters.length
    pure meaning
  else refuse

/-- Reads a number of exactly `count` hexadecimal digits. -/
def hexadecimal (count : Nat) : TextReader Nat := do
  let digits ← given (((← ahead).take count).mapM Text.Hex.digit?)
  if digits.length = count then
    skip count
    pure (digits.foldl (fun n d => 16 * n + d) 0)
  else refuse

/-- The result for a whole text, of which nothing may be left. -/
def whole? {α : Type} (p : TextReader α) (s : String) : Option α :=
  let read : TextReader α := do
    let a ← p
    if (← peek?).isSome then refuse else pure a
  (read.run 0 s.toList).1.toOption

end TextReader

end SqlFormula
