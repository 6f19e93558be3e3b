import SqlFormula.Eval.Arguments
import SqlFormula.Syntax.TypeName
import SqlFormula.Value.Order
import SqlFormula.WallTime.Shift

/-!
# Types: looking at them and converting between them

## Main definitions

- `castTo` — a value converted to a storage class
- `Call.onTypes?` — the functions of this family
-/

namespace SqlFormula

namespace Cast

/-- The whole part of a double, if it fits into an integer. -/
def integerOf? (x : Float) : Option Value :=
  ((Number.truncate? x).bind Number.int64?).map Value.integer

/-- A whole double as an integer, if it fits; other doubles stay. -/
def narrow (x : Float) : Value :=
  if Number.isWhole x then (integerOf? x).getD (.float x) else .float x

/-- A value as an integer. Fractions are dropped. -/
def toInteger? : Value → Option Value
  | .integer i => some (.integer i)
  | .float x => integerOf? x
  | .boolean b => some (.ofBit b)
  | .dateTime t => some (.integer (Int64.ofInt t.seconds))
  | v@(.text _) | v@(.blob _) =>
    match parseNumber? v.display with
    | some (.float x) => integerOf? x
    | other => other
  | _ => none

/-- A value as a float. -/
def toFloat? : Value → Option Value
  | .integer i => some (.float (Number.ofInt64 i))
  | .float x => some (.float x)
  | .boolean b => some (.float (if b then 1.0 else 0.0))
  | .dateTime t => some (.float (Number.ofInt t.wallTime.milliseconds / 1000.0))
  | v@(.text _) | v@(.blob _) => (parseFloat? v.display).map Value.float
  | _ => none

/-- A value as an integer if it is whole and fits, else as a float. -/
def toNumeric? : Value → Option Value
  | .integer i => some (.integer i)
  | .float x => some (narrow x)
  | .boolean b => some (.ofBit b)
  | .dateTime t => some (.integer (Int64.ofInt t.seconds))
  | v@(.text _) | v@(.blob _) =>
    match parseNumber? v.display with
    | some (.float x) => some (narrow x)
    | other => other
  | _ => none

/-- A value as text; a blob has to be UTF-8. -/
def toText? : Value → Option Value
  | .blob bytes => (Text.ofBytes? bytes).map Value.text
  | v => some (.text v.display)

/-- A value as a blob: the bytes of its text. -/
def toBlob : Value → Value
  | .blob bytes => .blob bytes
  | v => .blob (Text.bytesOf v.display)

/-- The words that stand for a boolean. -/
def booleanWord? : String → Option Bool
  | "true" | "yes" | "on" => some true
  | "false" | "no" | "off" => some false
  | _ => none

/-- A text as a boolean: one of the words, or a number. -/
def textBoolean? (s : String) : Option Bool :=
  match booleanWord? (Text.asciiLower (Text.trim s)) with
  | some b => some b
  | none => (parseFloat? s).map (· != 0.0)

/-- A value as a boolean. -/
def toBoolean? : Value → Option Value
  | .text s => (textBoolean? s).map Value.boolean
  | v => v.truth?.map Value.boolean

/-- A value as an instant. -/
def toDateTime? : Value → Option Value
  | .dateTime t => some (.dateTime t)
  | .integer i => (Instant.of? i.toInt 0).map Value.dateTime
  | .float x => (Instant.ofSeconds? x).map Value.dateTime
  | .text s => (readDateTime? s).map Value.dateTime
  | _ => none

/-- A value other than NULL converted to a storage class. -/
def convert? (target : Affinity) (v : Value) : Option Value :=
  match target with
  | .integer => toInteger? v
  | .real => toFloat? v
  | .numeric => toNumeric? v
  | .text => toText? v
  | .blob => some (toBlob v)
  | .boolean => toBoolean? v
  | .dateTime => toDateTime? v

end Cast

/-- A value converted to a declared type. NULL stays NULL; what cannot be read as the type is an error. -/
def castTo (target : TypeName) (v : Value) : Except EvalError Value :=
  if v.isNull then .ok .null
  else match Cast.convert? target.affinity v with
    | some w => .ok w
    | none => .error (.invalidCast v.display target.name)

namespace Call

/-- The first value, or NULL if the second one is equal to it. -/
def ofNullIf (v w : Value) : Value :=
  if !v.isNull && !w.isNull && Value.compareWith .binary v w == .eq then .null else v

/-- A call of a function on types; nothing for other functions. -/
def onTypes? (f : Builtin) (args : List Value) : Option (Except EvalError Value) :=
  match f with
  | .typeOf => some do
    return .text (← f.argument args 0).typeName
  | .nullIf => some do
    return ofNullIf (← f.argument args 0) (← f.argument args 1)
  | _ => none

end Call

end SqlFormula
