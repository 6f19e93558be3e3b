import SqlFormula.Instant.Write
import SqlFormula.Json.Write
import SqlFormula.Text.Bytes
import SqlFormula.Value

/-!
# Values as text and as JSON

## Main definitions

- `Value.toJson` — a value as a JSON document
- `Value.ofJson` — the value of a JSON document
- `Value.display` — a value as text
-/

namespace SqlFormula.Value

mutual

/-- A value as a JSON document: blobs in hexadecimal digits, instants in the standard notation. -/
def toJson : Value → Json
  | .null => .null
  | .boolean b => .boolean b
  | .integer i => .integer i.toInt
  | .float x => if Number.isFinite x then .float x else .null
  | .text s => .text s
  | .blob bytes => .text (Text.Hex.encodeUpper bytes)
  | .dateTime t => .text (t.rfc3339 "+00:00")
  | .array items => .array (toJsonItems items)
  | .object entries => .object (toJsonMembers entries)

/-- Items as JSON documents. -/
def toJsonItems : List Value → List Json
  | [] => []
  | v :: vs => v.toJson :: toJsonItems vs

/-- Entries as members of a JSON object. -/
def toJsonMembers : List (String × Value) → List (String × Json)
  | [] => []
  | (key, v) :: rest => (key, v.toJson) :: toJsonMembers rest

end

mutual

/-- The value of a JSON document. Integers beyond 64 bits with a sign become floats. -/
def ofJson : Json → Value
  | .null => .null
  | .boolean b => .boolean b
  | .integer i =>
    match Number.int64? i with
    | some n => .integer n
    | none => .float (Number.ofInt i)
  | .float x => .float x
  | .text s => .text s
  | .array items => .array (ofJsonItems items)
  | .object members => .object (ofJsonMembers members)

/-- The values of the items of a JSON array. -/
def ofJsonItems : List Json → List Value
  | [] => []
  | j :: js => ofJson j :: ofJsonItems js

/-- The entries for the members of a JSON object. -/
def ofJsonMembers : List (String × Json) → List (String × Value)
  | [] => []
  | (name, j) :: rest => (name, ofJson j) :: ofJsonMembers rest

end

/-- A value as text: nothing for NULL, arrays and objects as JSON. -/
def display : Value → String
  | .null => ""
  | .boolean b => if b then "true" else "false"
  | .integer i => toString i.toInt
  | .float x => Number.formatFloat x
  | .text s => s
  | .blob bytes => Text.ofBytesLossy bytes
  | .dateTime t => t.display
  | v@(.array _) => v.toJson.compact
  | v@(.object _) => v.toJson.compact

end SqlFormula.Value
