import SqlFormula.Eval.Error
import SqlFormula.Syntax.Operator
import SqlFormula.Value.Number
import SqlFormula.Value.Text

/-!
# Arithmetic

Integers stay integers for as long as the result fits into 64 bits; else the operation is done on
doubles. NULL makes every result NULL.

## Main definitions

- `arithmetic` — the operators `+`, `-`, `*`, `/` and `%`
- `negate` — the sign
- `concat` — the operator `||`
-/

namespace SqlFormula

/-- An arithmetic operator on doubles. -/
def floatArithmetic (op : BinaryOperator) (x y : Float) : Except EvalError Value :=
  match op with
  | .add => .ok (.float (x + y))
  | .subtract => .ok (.float (x - y))
  | .multiply => .ok (.float (x * y))
  | .divide => if y == 0.0 then .error .divisionByZero else .ok (.float (x / y))
  | .modulo => if y == 0.0 then .error .divisionByZero else .ok (.float (Number.remainder x y))
  | op => .error (.typeMismatch op.symbol "real" "real")

/-- The exact result of an arithmetic operator on integers, with quotients rounded toward zero. -/
def exactResult? (op : BinaryOperator) (i j : Int) : Option Int :=
  match op with
  | .add => some (i + j)
  | .subtract => some (i - j)
  | .multiply => some (i * j)
  | .divide => if j = 0 then none else some (i.tdiv j)
  | .modulo => if j = 0 then none else some (i.tmod j)
  | _ => none

/-- An arithmetic operator on integers. -/
def integerArithmetic (op : BinaryOperator) (i j : Int64) : Except EvalError Value :=
  match (exactResult? op i.toInt j.toInt).bind Number.int64? with
  | some k => .ok (.integer k)
  | none => floatArithmetic op (Number.ofInt64 i) (Number.ofInt64 j)

/-- An arithmetic operator on any two values. -/
def arithmetic (op : BinaryOperator) (v w : Value) : Except EvalError Value :=
  if v.isNull || w.isNull then .ok .null
  else match v.toNumber?, w.toNumber? with
    | some (.integer i), some (.integer j) => integerArithmetic op i j
    | some a, some b => floatArithmetic op (a.asFloat?.getD 0.0) (b.asFloat?.getD 0.0)
    | _, _ => .error (.typeMismatch op.symbol v.typeName w.typeName)

/-- The negative of an integer; that of the least one is a float. -/
def negateInteger (i : Int64) : Value :=
  match Number.int64? (-i.toInt) with
  | some j => .integer j
  | none => .float (-(Number.ofInt64 i))

/-- The negative of a value. -/
def negate (v : Value) : Except EvalError Value :=
  if v.isNull then .ok .null
  else match v.toNumber? with
    | some (.integer i) => .ok (negateInteger i)
    | some (.float x) => .ok (.float (-x))
    | _ => .error (.invalidOperand "unary -" v.typeName)

/-- The texts of two values, one after the other. -/
def concat (v w : Value) : Value :=
  if v.isNull || w.isNull then .null else .text (v.display ++ w.display)

end SqlFormula
