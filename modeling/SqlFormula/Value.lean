import SqlFormula.Entries
import SqlFormula.Instant
import SqlFormula.Number.Integer
import SqlFormula.Number.Reading
import SqlFormula.Text.Blank

/-!
# Values

The values that fields hold and that formulas compute: a closed set of kinds, with arrays and objects
nested in any way.

## Main definitions

- `Value` — values
- `Record` — the fields of one row
- `Value.typeName` — the name of a kind
- `Value.WellFormed` — the order of keys that objects keep
- `parseNumber?` — a number from its text
-/

namespace SqlFormula

/-- A value. The entries of an object ascend by key. -/
inductive Value where
  | null
  | boolean (b : Bool)
  | integer (i : Int64)
  | float (x : Float)
  | text (s : String)
  | blob (bytes : List UInt8)
  | dateTime (t : Instant)
  | array (items : List Value)
  | object (entries : List (String × Value))
  deriving Inhabited

/-- The fields of one row, in ascending order of their names. -/
abbrev Record := List (String × Value)

namespace Value

/-- The name of a value's kind. -/
def typeName : Value → String
  | .null => "null"
  | .boolean _ => "boolean"
  | .integer _ => "integer"
  | .float _ => "real"
  | .text _ => "text"
  | .blob _ => "blob"
  | .dateTime _ => "datetime"
  | .array _ => "array"
  | .object _ => "object"

/-- Whether a value is NULL. -/
def isNull : Value → Bool
  | .null => true
  | _ => false

/-- Whether a value is an integer or a float. -/
def isNumeric : Value → Bool
  | .integer _ | .float _ => true
  | _ => false

/-- The truth value of a boolean. -/
def asBoolean? : Value → Option Bool
  | .boolean b => some b
  | _ => none

/-- The number of an integer. -/
def asInteger? : Value → Option Int64
  | .integer i => some i
  | _ => none

/-- The number of an integer or a float, as a double. -/
def asFloat? : Value → Option Float
  | .integer i => some (Number.ofInt64 i)
  | .float x => some x
  | _ => none

/-- The text of a text. -/
def asText? : Value → Option String
  | .text s => some s
  | _ => none

/-- The items of an array. -/
def asArray? : Value → Option (List Value)
  | .array items => some items
  | _ => none

/-- The entries of an object. -/
def asObject? : Value → Option (List (String × Value))
  | .object entries => some entries
  | _ => none

mutual

/-- The entries of every object ascend by key, at every depth. -/
def WellFormed : Value → Prop
  | .array items => WellFormedItems items
  | .object entries => Entries.Sorted entries ∧ WellFormedEntries entries
  | _ => True

/-- All items are well formed. -/
def WellFormedItems : List Value → Prop
  | [] => True
  | v :: vs => v.WellFormed ∧ WellFormedItems vs

/-- The values of all entries are well formed. -/
def WellFormedEntries : List (String × Value) → Prop
  | [] => True
  | (_, v) :: rest => v.WellFormed ∧ WellFormedEntries rest

end

mutual

/-- How deep arrays and objects are nested: 0 for a value without parts. -/
def depth : Value → Nat
  | .array items => depthItems items + 1
  | .object entries => depthEntries entries + 1
  | _ => 0

/-- The depth of the deepest item. -/
def depthItems : List Value → Nat
  | [] => 0
  | v :: vs => max v.depth (depthItems vs)

/-- The depth of the deepest value of an entry. -/
def depthEntries : List (String × Value) → Nat
  | [] => 0
  | (_, v) :: rest => max v.depth (depthEntries rest)

end

end Value

/-- A character of a decimal: a digit, a point, a sign or the mark of an exponent. -/
def isNumeralChar (c : Char) : Bool :=
  c.isDigit || c == '.' || c == 'e' || c == 'E' || c == '+' || c == '-'

/-- The float of a decimal. Words such as `inf` are no numbers. -/
def parseDecimal? (cs : List Char) : Option Value :=
  if cs.all isNumeralChar && cs.any Char.isDigit then
    (Number.readDecimal? cs).map fun d => .float (d.nearest Number.double)
  else none

/-- The number that a text stands for, with blanks around it or not: an integer if it is one and fits into
64 bits, else a float. -/
def parseNumber? (s : String) : Option Value :=
  let cs := Text.trimBlanks s.toList
  match Number.readInt64? cs with
  | some i => some (.integer i)
  | none => parseDecimal? cs

end SqlFormula
