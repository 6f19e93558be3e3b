import SqlFormula.Text.LetterCase
import SqlFormula.Text.Parts

/-!
# Declared types

Columns and casts name types by free words. The words decide on the storage class.

## Main definitions

- `Affinity` — storage classes
- `affinityOf` — the storage class of a declared type
- `TypeName` — a declared type with its sizes
-/

namespace SqlFormula

/-- A storage class. -/
inductive Affinity where
  | integer | real | text | blob | numeric | boolean | dateTime
  deriving DecidableEq, Repr

namespace Affinity

/-- All storage classes. -/
def all : List Affinity :=
  [.integer, .real, .text, .blob, .numeric, .boolean, .dateTime]

/-- The name of the storage class in a syntax tree. -/
def tag : Affinity → String
  | .integer => "Integer"
  | .real => "Real"
  | .text => "Text"
  | .blob => "Blob"
  | .numeric => "Numeric"
  | .boolean => "Boolean"
  | .dateTime => "DateTime"

/-- The storage class with the given name in a syntax tree. -/
def ofTag? (s : String) : Option Affinity :=
  all.find? fun a => a.tag == s

end Affinity

/-- The storage class of a declared type: the first class of which a mark occurs in the words, in any case
of their ASCII letters. Without words it is the class of blobs. -/
def affinityOf (declared : String) : Affinity :=
  let upper := Text.asciiUpper declared
  let has (marks : List String) : Bool := marks.any (Text.contains · upper)
  if has ["INT"] then .integer
  else if has ["CHAR", "CLOB", "TEXT"] then .text
  else if upper.isEmpty || has ["BLOB"] then .blob
  else if has ["REAL", "FLOA", "DOUB"] then .real
  else if has ["BOOL"] then .boolean
  else if has ["DATE", "TIME"] then .dateTime
  else .numeric

/-- A declared type, such as `VARCHAR(255)`. -/
structure TypeName where
  name : String
  sizes : List Int64
  affinity : Affinity
  deriving DecidableEq

/-- The declared type with the given words and sizes. -/
def TypeName.declare (name : String) (sizes : List Int64) : TypeName where
  name
  sizes
  affinity := affinityOf name

end SqlFormula
