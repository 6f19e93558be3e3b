import SqlFormula.Text.Letter

/-!
# Marks of kinds

In portable text every scalar carries a mark of its kind, so that it is read back as what it was.

## Main definitions

- `Marker` — the kinds of scalars
- `isNameChar` — the characters that names hold without an escape
-/

namespace SqlFormula.PortableText

/-- The kind of a scalar. -/
inductive Marker where
  | null
  | boolean
  | integer
  /-- A float of 32 bits. It is read, but never written. -/
  | single
  | double
  | text
  | blob
  | dateTime
  deriving DecidableEq, Repr

namespace Marker

/-- All kinds of scalars. -/
def all : List Marker :=
  [.null, .boolean, .integer, .single, .double, .text, .blob, .dateTime]

/-- The character of a mark. -/
def symbol : Marker → Char
  | .null => '~'
  | .boolean => '!'
  | .integer => '#'
  | .single => '^'
  | .double => '%'
  | .text => '$'
  | .blob => '&'
  | .dateTime => '*'

/-- The mark with a character. -/
def ofSymbol? (c : Char) : Option Marker :=
  all.find? fun m => m.symbol == c

/-- The kind in words. -/
def kind : Marker → String
  | .null => "null"
  | .boolean => "boolean"
  | .integer => "integer"
  | .single => "float"
  | .double => "double"
  | .text => "text"
  | .blob => "blob"
  | .dateTime => "date/time"

end Marker

/-- A character that names hold without an escape. -/
def isNameChar (c : Char) : Bool :=
  Text.isAlphanumeric c || c == '_' || c == '-' || c == '.'

/-- Arrays and objects nest at most this deep. -/
def nestingLimit : Nat := 256

/-- What comes before the name of an object. -/
def objectStart : String := "@obj:"

/-- What comes before the items of an array. -/
def arrayStart : String := "@array["

/-- The name of an object that has no other. -/
def defaultName : String := "object"

end SqlFormula.PortableText
