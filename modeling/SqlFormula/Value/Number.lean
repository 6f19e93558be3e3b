import SqlFormula.Text.LetterCase
import SqlFormula.Value

/-!
# Values as numbers and as truth values

## Main definitions

- `Value.toNumber?` — a value as a number
- `Value.truth?` — a value as a condition; NULL is neither true nor false
-/

namespace SqlFormula

/-- The integer 1 or 0. -/
def Value.ofBit (b : Bool) : Value :=
  .integer (if b then 1 else 0)

/-- The double that a text stands for. -/
def parseFloat? (s : String) : Option Float :=
  (parseNumber? s).bind Value.asFloat?

namespace Value

/-- A value as a number: booleans count as 1 and 0, and texts are read. -/
def toNumber? : Value → Option Value
  | .integer i => some (.integer i)
  | .float x => some (.float x)
  | .boolean b => some (ofBit b)
  | .text s => parseNumber? s
  | _ => none

/-- A text as a condition: a number other than zero, or the word `true`. -/
def textTruth (s : String) : Bool :=
  match parseFloat? s with
  | some x => x != 0.0
  | none => Text.eqIgnoreAsciiCase s "true"

/-- A value as a condition; nothing for NULL. -/
def truth? : Value → Option Bool
  | .null => none
  | .boolean b => some b
  | .integer i => some (i != 0)
  | .float x => some (x != 0.0)
  | .text s => some (textTruth s)
  | .blob bytes => some (!bytes.isEmpty)
  | .dateTime _ => some true
  | .array items => some (!items.isEmpty)
  | .object entries => some (!entries.isEmpty)

/-- A text that can be compared with a boolean: `true`, `false` or a number. -/
def textBoolean? (s : String) : Option Bool :=
  if Text.eqIgnoreAsciiCase s "true" then some true
  else if Text.eqIgnoreAsciiCase s "false" then some false
  else (parseFloat? s).map (· != 0.0)

end Value

end SqlFormula
