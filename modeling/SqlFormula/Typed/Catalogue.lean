import SqlFormula.Typed.Shape
import SqlFormula.Value

/-!
# Some types

Types of an application that keeps people, types that show one feature each, and the type of values itself.

## Main definitions

- `Catalogue.person`, `Catalogue.status` — a structure and a sum with parts of many kinds
- `Catalogue.strict`, `Catalogue.value` — types that refer to themselves
-/

namespace SqlFormula.Typed.Catalogue

/-- Integers of 32 bits. -/
def int32 : Shape := .integer ⟨true, 32⟩

/-- Integers of 64 bits. -/
def int64 : Shape := .integer ⟨true, 64⟩

/-- An address. -/
def address : Shape :=
  .struct "Address" true false [("street", .text), ("city", .text), ("zip", .optional .text)]

/-- The status of a person. -/
def status : Shape :=
  .sum "Status" [("Active", .unit), ("Suspended", .struct [("reason", .text)]),
    ("Scored", .tuple [int32, .double]), ("Tagged", .wrapped .text)]

/-- A number and a text. -/
def pair : Shape :=
  .tuple (.tuple 2) [int32, .text]

/-- A person, of whom nothing needs to be known. -/
def person : Shape :=
  .struct "Person" true false [("id", .integer ⟨false, 64⟩), ("name", .text), ("age", int32),
    ("score", .double), ("admin", .boolean), ("initial", .char), ("address", address),
    ("tags", .sequence .text), ("nickname", .optional .text), ("avatar", .bytes), ("joined", .dateTime),
    ("status", status), ("history", .sequence status), ("counters", .map .text int64), ("pair", pair)]

/-- Small numbers. -/
def small : Shape :=
  .struct "Small" true false [("level", .integer ⟨false, 8⟩), ("offsets", .sequence (.integer ⟨true, 8⟩))]

/-- A structure without defaults that may hold another one of its kind, unfolded so many times. -/
def strict : Nat → Shape
  | 0 => .unit
  | n + 1 =>
    .struct "Strict" false false [("id", int64), ("name", .text), ("note", .optional .text),
      ("inner", .optional (strict n))]

/-- A structure that has no other fields than its own. -/
def closed : Shape :=
  .struct "Closed" false true [("a", int32), ("b", .boolean)]

/-- A structure without fields. -/
def marker : Shape := .unitStruct "Marker"

/-- A length. -/
def meters : Shape := .wrapped .double

/-- A point in space. -/
def point : Shape :=
  .tuple (.struct "Point" 3) [int32, int32, int32]

/-- A structure that holds a date and time. -/
def stamp : Shape :=
  .struct "Stamp" false false [("at", .dateTime)]

/-- Values, each as the variant of its kind, unfolded so many times. -/
def value : Nat → Shape
  | 0 => .unit
  | n + 1 =>
    .sum "Value" [("Null", .unit), ("Boolean", .wrapped .boolean), ("Integer", .wrapped int64),
      ("Float", .wrapped .double), ("Text", .wrapped .text),
      ("Blob", .wrapped (.sequence (.integer ⟨false, 8⟩))), ("DateTime", .wrapped .timestamp),
      ("Array", .wrapped (.sequence (value n))), ("Object", .wrapped (.map .text (value n)))]

end SqlFormula.Typed.Catalogue
