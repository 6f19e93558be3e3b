import SqlFormula.Typed.Datum

/-!
# Errors of storing typed data

## Main definitions

- `EncodeError` — why typed data does not become a value
- `EncodeError.message` — the error in words
-/

namespace SqlFormula.Typed

/-- Data that no value can hold. -/
inductive Unsupported where
  /-- An integer without a sign that does not fit into 64 bits with one. -/
  | largeUnsigned
  | wide (signed : Bool)
  /-- A date and time that is not given as a text. -/
  | dateTime
  /-- A key of a map that is not a text. -/
  | key
  deriving DecidableEq, Repr

/-- The data in words. -/
def Unsupported.kind : Unsupported → String
  | .largeUnsigned => "u64 above i64::MAX"
  | .wide true => "i128"
  | .wide false => "u128"
  | .dateTime => "non-text date/time"
  | .key => "non-string map key"

/-- The two kinds of containers. -/
inductive ContainerKind where
  | object
  | array
  deriving DecidableEq, Repr

/-- The kind in words. -/
def ContainerKind.text : ContainerKind → String
  | .object => "object"
  | .array => "array"

/-- Why typed data does not become a value. -/
inductive EncodeError where
  | unsupported (data : Unsupported) (path : List Segment)
  /-- A container is not of the kind that an operation needs. -/
  | mismatch (id : Nat) (expected : ContainerKind)
  /-- There is no such container, or it has been used already. -/
  | reused (id : Nat)
  | invalidDateTime (text : String)
  | missingKey
  /-- The data reported an error of its own. -/
  | reported (message : String)
  deriving DecidableEq, Repr

namespace EncodeError

/-- The name of the kind of error. -/
def name : EncodeError → String
  | .unsupported .. => "UnsupportedType"
  | .mismatch .. => "ContainerMismatch"
  | .reused _ => "ContainerReused"
  | .invalidDateTime _ | .missingKey | .reported _ => "Custom"

/-- The error in words. -/
def message : EncodeError → String
  | .unsupported data path => "Unsupported type " ++ data.kind ++ " at $" ++ pathText path
  | .mismatch id expected => s!"Container {id} is not an " ++ expected.text
  | .reused id => s!"Container {id} was already finished or attached twice"
  | .invalidDateTime text => s!"Encode error: invalid date/time '{text}'"
  | .missingKey => "Encode error: map value without a key"
  | .reported message => "Encode error: " ++ message

end EncodeError

end SqlFormula.Typed
