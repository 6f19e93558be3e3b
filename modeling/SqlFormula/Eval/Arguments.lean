import SqlFormula.Builtin
import SqlFormula.Eval.Error
import SqlFormula.Number.Binary64
import SqlFormula.Value.Number
import SqlFormula.Value.Text

/-!
# Arguments of builtin functions

An argument is taken as text, as an integer or as a number. NULL and a missing argument give nothing. Some functions take
an argument as it is, and rely on its being there.

## Main definitions

- `Builtin.checkArity` — whether a call has a right number of arguments
- `Builtin.textArg`, `Builtin.integerArg`, `Builtin.numberArg`, `Builtin.argument`
-/

namespace SqlFormula.Builtin

variable (f : Builtin)

/-- Fails unless the function takes `n` arguments. -/
def checkArity (n : Nat) : Except EvalError Unit :=
  if f.arity.admits n then .ok () else .error (.arity f.name f.arity.describe n)

/-- The error for an argument that is not what is expected; arguments are counted from 1. -/
def argumentError (index : Nat) (expected : String) (v : Value) : EvalError :=
  .argumentType f.name (index + 1) expected v.typeName

/-- The argument at an index, which has to be there. -/
def argument (args : List Value) (index : Nat) : Except EvalError Value :=
  match args[index]? with
  | some v => .ok v
  | none => .error (.missingArgument f.name index)

/-- A value as a text argument. -/
def asTextArg (index : Nat) : Value → Except EvalError (Option String)
  | .null => .ok none
  | v@(.array _) => .error (f.argumentError index "text" v)
  | v@(.object _) => .error (f.argumentError index "text" v)
  | v => .ok (some v.display)

/-- The argument at an index as text; arrays and objects are refused. -/
def textArg (args : List Value) (index : Nat) : Except EvalError (Option String) :=
  match args[index]? with
  | none => .ok none
  | some v => f.asTextArg index v

/-- A value as an integer argument. -/
def asIntegerArg (index : Nat) (v : Value) : Except EvalError (Option Int64) :=
  if v.isNull then .ok none
  else match v.toNumber? with
    | some (.integer i) => .ok (some i)
    | some (.float x) => .ok (some (Number.toInt64Nearest x))
    | _ => .error (f.argumentError index "integer" v)

/-- The argument at an index as an integer; fractions are dropped and texts are read. -/
def integerArg (args : List Value) (index : Nat) : Except EvalError (Option Int64) :=
  match args[index]? with
  | none => .ok none
  | some v => f.asIntegerArg index v

/-- A value as a numeric argument. -/
def asNumberArg (index : Nat) (v : Value) : Except EvalError (Option Value) :=
  if v.isNull then .ok none
  else match v.toNumber? with
    | some n => .ok (some n)
    | none => .error (f.argumentError index "number" v)

/-- The argument at an index as an integer or a float. -/
def numberArg (args : List Value) (index : Nat) : Except EvalError (Option Value) :=
  match args[index]? with
  | none => .ok none
  | some v => f.asNumberArg index v

end SqlFormula.Builtin
