import SqlFormula.PortableText.Marker

/-!
# Errors of portable text

## Main definitions

- `FormatError` — why a text is no portable text, and where
- `FormatError.message` — the error in words
-/

namespace SqlFormula.PortableText

/-- What is wrong with a text that goes on where it should not. -/
inductive Malformation where
  /-- There is more after the value. -/
  | trailing
  | tooDeep
  /-- Something else than these characters. -/
  | notLiteral (cs : String)
  /-- An `@` before something else than an array or an object. -/
  | notContainer
  deriving DecidableEq, Repr

namespace Malformation

/-- The fault in words. -/
def message : Malformation → String
  | .trailing => "trailing input after root value"
  | .tooDeep => "nesting too deep"
  | .notLiteral cs => s!"expected '{cs}'"
  | .notContainer => s!"expected '{objectStart}' or '{arrayStart}'"

end Malformation

/-- What is missing where a text breaks off. -/
inductive Missing where
  | value
  | marker
  | container
  | escaped
  | quote
  | objectEnd
  | arrayEnd
  | literal (cs : String)
  deriving DecidableEq, Repr

namespace Missing

/-- What is missing, in words. -/
def message : Missing → String
  | .value => "a value"
  | .marker => "a type marker"
  | .container => s!"'{objectStart}' or '{arrayStart}'"
  | .escaped => "an escaped character"
  | .quote => "closing '`'"
  | .objectEnd => "'>'"
  | .arrayEnd => "']'"
  | .literal cs => s!"'{cs}'"

end Missing

/-- Why a text is no portable text, and at which byte. -/
inductive FormatError where
  | malformed (offset : Nat) (fault : Malformation)
  | unknownMarker (offset : Nat) (marker : Char)
  | truncated (offset : Nat) (expected : Missing)
  | duplicateKey (offset : Nat) (key : String)
  | invalidScalar (offset : Nat) (marker : Marker) (text : String)
  deriving DecidableEq, Repr

namespace FormatError

/-- The byte at which the error is. -/
def offset : FormatError → Nat
  | .malformed offset _ | .unknownMarker offset _ | .truncated offset _ | .duplicateKey offset _
  | .invalidScalar offset _ _ => offset

/-- The name of the kind of error. -/
def name : FormatError → String
  | .malformed .. => "Malformed"
  | .unknownMarker .. => "UnknownMarker"
  | .truncated .. => "Truncated"
  | .duplicateKey .. => "DuplicateKey"
  | .invalidScalar .. => "InvalidScalar"

/-- The error in words. -/
def message : FormatError → String
  | .malformed offset fault => s!"Malformed portable text at offset {offset}: " ++ fault.message
  | .unknownMarker offset marker => s!"Unknown type marker '{marker}' at offset {offset}"
  | .truncated offset expected => s!"Truncated portable text at offset {offset}: expected " ++ expected.message
  | .duplicateKey offset key => s!"Duplicate key '{key}' at offset {offset}"
  | .invalidScalar offset marker text => "Invalid " ++ marker.kind ++ s!" value '{text}' at offset {offset}"

end FormatError

end SqlFormula.PortableText
