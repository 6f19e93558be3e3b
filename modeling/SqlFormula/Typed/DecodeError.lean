import SqlFormula.Instant.Read
import SqlFormula.Number.Layout
import SqlFormula.Text.Quoted
import SqlFormula.Typed.Datum
import SqlFormula.Value

/-!
# Errors of taking values as typed data

## Main definitions

- `Found` — what is found where something else is expected
- `DecodeError` — why a value is no data of a type, and at which part of it
- `DecodeError.message` — the error in words
-/

namespace SqlFormula.Typed

/-- What is found where something else is expected. -/
inductive Found where
  | nothing
  | boolean (b : Bool)
  | integer (i : Int64)
  | float (x : Float)
  | text (s : String)
  | bytes
  | dateTime
  | sequence
  | map
  /-- The name of a variant, without data. -/
  | variant

namespace Found

/-- What is found in a value. -/
def ofValue : Value → Found
  | .null => .nothing
  | .boolean b => .boolean b
  | .integer i => .integer i
  | .float x => .float x
  | .text s => .text s
  | .blob _ => .bytes
  | .dateTime _ => .dateTime
  | .array _ => .sequence
  | .object _ => .map

/-- Floats in errors are in plain notation, and whole numbers keep the fraction `.0`. -/
def floatLayout : Number.Layout :=
  { Number.plainLayout with wholeFraction := true }

/-- What is found, in words. -/
def message : Found → String
  | .nothing => "unit value"
  | .boolean b => "boolean `" ++ toString b ++ "`"
  | .integer i => "integer `" ++ toString i.toInt ++ "`"
  | .float x => "floating point `" ++ floatLayout.write x ++ "`"
  | .text s => "string " ++ Text.quoted s
  | .bytes => "byte array"
  | .dateTime => "date/time"
  | .sequence => "sequence"
  | .map => "map"
  | .variant => "unit variant"

end Found

/-- What is wrong with a value of the right kind. -/
inductive Invalidity where
  | length (found : Nat) (expected : String)
  | missingField (name : String)
  | unknownField (name : String) (known : List String)
  | unknownVariant (name : String) (known : List String)
  /-- A text is no date and time of values. -/
  | dateTime (text : String)
  /-- A text is no date and time in the standard notation. -/
  | timestamp (fault : DateFault)

namespace Invalidity

/-- Some names to choose from. -/
def choiceText (known : List String) : String :=
  let marked := known.map fun name => "`" ++ name ++ "`"
  match marked with
  | [] => "there are none"
  | [a] => "expected " ++ a
  | [a, b] => "expected " ++ a ++ " or " ++ b
  | names => "expected one of " ++ String.intercalate ", " names

/-- What is wrong, in words. -/
def message : Invalidity → String
  | .length found expected => s!"invalid length {found}, expected {expected}"
  | .missingField name => "missing field `" ++ name ++ "`"
  | .unknownField name known => "unknown field `" ++ name ++ "`, " ++ choiceText known
  | .unknownVariant name known => "unknown variant `" ++ name ++ "`, " ++ choiceText known
  | .dateTime text => s!"invalid date/time '{text}'"
  | .timestamp fault => fault.message

end Invalidity

/-- Why a value is no data of a type. -/
inductive DecodeError where
  | mismatch (path : List Segment) (expected : String) (found : Found)
  | invalid (path : List Segment) (fault : Invalidity)

namespace DecodeError

/-- The part of the value at which the error is. -/
def path : DecodeError → List Segment
  | .mismatch path _ _ | .invalid path _ => path

/-- An error in a part, as one of the whole. -/
def under (step : Segment) : DecodeError → DecodeError
  | .mismatch path expected found => .mismatch (step :: path) expected found
  | .invalid path fault => .invalid (step :: path) fault

/-- The name of the kind of error. -/
def name : DecodeError → String
  | .mismatch .. => "TypeMismatch"
  | .invalid .. => "Invalid"

/-- The error in words. -/
def message : DecodeError → String
  | .mismatch path expected found =>
    "Type mismatch at $" ++ pathText path ++ ": expected " ++ expected ++ ", found " ++ found.message
  | .invalid path fault => "Invalid value at $" ++ pathText path ++ ": " ++ fault.message

end DecodeError

end SqlFormula.Typed
