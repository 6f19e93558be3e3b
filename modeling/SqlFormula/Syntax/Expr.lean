import SqlFormula.Builtin
import SqlFormula.Syntax.Operator
import SqlFormula.Syntax.TypeName
import SqlFormula.Value

/-!
# Expressions

## Main definitions

- `Expr` — the expressions of formulas and statements
- `Expr.containsAggregate` — whether evaluation needs many records
-/

namespace SqlFormula

/-- An expression. -/
inductive Expr where
  | literal (v : Value)
  /-- A field by its name, or a part of it by a path with dots. -/
  | field (path : String)
  | unary (op : UnaryOperator) (operand : Expr)
  | binary (op : BinaryOperator) (negate : Bool) (left right : Expr)
  | call (function : Builtin) (args : List Expr)
  /-- The result of the first clause whose condition is true. -/
  | caseWhen (clauses : List (Expr × Expr)) (otherwise : Expr)
  /-- The result of the first clause whose left side is equal to the operand. -/
  | caseOf (operand : Expr) (clauses : List (Expr × Expr)) (otherwise : Expr)
  | between (negate : Bool) (operand low high : Expr)
  /-- Whether the operand is equal to one of the candidates. -/
  | among (negate : Bool) (operand : Expr) (candidates : List Expr)
  | cast (operand : Expr) (target : TypeName)
  | collate (operand : Expr) (collation : Collation)
  deriving Inhabited

namespace Expr

/-- The collation that an expression carries at its top. -/
def collation? : Expr → Option Collation
  | .collate _ c => some c
  | _ => none

mutual

/-- Whether a call that gathers over records occurs anywhere in an expression. -/
def containsAggregate : Expr → Bool
  | .literal _ | .field _ => false
  | .unary _ operand => operand.containsAggregate
  | .binary _ _ left right => left.containsAggregate || right.containsAggregate
  | .call function args => function.isAggregate args.length || anyContainsAggregate args
  | .caseWhen clauses otherwise => clausesContainAggregate clauses || otherwise.containsAggregate
  | .caseOf operand clauses otherwise =>
    operand.containsAggregate || clausesContainAggregate clauses || otherwise.containsAggregate
  | .between _ operand low high =>
    operand.containsAggregate || low.containsAggregate || high.containsAggregate
  | .among _ operand candidates => operand.containsAggregate || anyContainsAggregate candidates
  | .cast operand _ => operand.containsAggregate
  | .collate operand _ => operand.containsAggregate

/-- Whether one of the expressions contains an aggregate. -/
def anyContainsAggregate : List Expr → Bool
  | [] => false
  | e :: es => e.containsAggregate || anyContainsAggregate es

/-- Whether an expression of one of the clauses contains an aggregate. -/
def clausesContainAggregate : List (Expr × Expr) → Bool
  | [] => false
  | (condition, result) :: rest =>
    condition.containsAggregate || result.containsAggregate || clausesContainAggregate rest

end

end Expr

end SqlFormula
