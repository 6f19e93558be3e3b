import SqlFormula.Eval.DateFunctions
import SqlFormula.Eval.Gathering
import SqlFormula.Eval.MathFunctions
import SqlFormula.Eval.PatternOperators
import SqlFormula.Eval.TextFunctions
import SqlFormula.Eval.TypeFunctions
import SqlFormula.Syntax.Expr
import SqlFormula.Text.Parts
import SqlFormula.Value.Arithmetic
import SqlFormula.Value.Logic

/-!
# Evaluation

The value of an expression in a record. Operands are evaluated from left to right, and the first error is the
error of the whole; what does not matter for the result of `AND`, `OR`, `CASE` and the conditional functions is
not evaluated.

A field is named by its key, or by a path whose segments, between dots, lead through objects by key and
through arrays by index. A key that is the whole path comes first, so keys with dots can be reached.

## Main definitions

- `Record.field` — the value of a field
- `Call.onValues` — a function applied to the values of its arguments
- `decided?`, `combine` — binary operators on values
- `Expr.eval` — the value of an expression
- `Expr.check` — whether a condition holds
-/

namespace SqlFormula

/-! ### Fields -/

/-- The index that a segment stands for, below 2⁶⁴; a plus sign may come first. -/
def indexOf? (segment : String) : Option Nat :=
  (Number.readUnsigned? segment.toList).filter (· < 18446744073709551616)

/-- The part of a value that a segment names. -/
def Value.part? (segment : String) : Value → Option Value
  | .object entries => Entries.find? segment entries
  | .array items => (indexOf? segment).bind fun i => items[i]?
  | _ => none

/-- The part of a value to which some segments lead. -/
def Value.follow? (v : Value) : List String → Option Value
  | [] => some v
  | segment :: segments => (v.part? segment).bind fun w => w.follow? segments

/-- The segments of a path. -/
def pathSegments (path : String) : List String :=
  (Text.splitAt '.' path.toList).map String.ofList

namespace Record

/-- The value to which a path leads. -/
def walk? (record : Record) (path : String) : Option Value :=
  match pathSegments path with
  | [] => none
  | first :: segments => (Entries.find? first record).bind fun v => v.follow? segments

/-- The value of a field, if the record has it. -/
def field? (record : Record) (path : String) : Option Value :=
  (Entries.find? path record).or (record.walk? path)

/-- The value of a field. -/
def field (record : Record) (path : String) : Except EvalError Value :=
  match record.field? path with
  | some v => .ok v
  | none => .error (.missingField path)

end Record

/-! ### Calls -/

namespace Call

/-- A call of a function of any family; nothing for functions that are not applied to values. -/
def onValues? (f : Builtin) (ctx : Context) (args : List Value) : Option (Except EvalError Value) :=
  (onText? f args).or <| (onNumbers? f args).or <| (onDates? f ctx args).or (onTypes? f args)

/-- A function applied to the values of its arguments. -/
def onValues (f : Builtin) (ctx : Context) (args : List Value) : Except EvalError Value := do
  f.checkArity args.length
  (onValues? f ctx args).getD (.error (.unsupportedFunction f.name))

end Call

/-! ### Operators on values -/

/-- Whether two values are the same, where two NULLs are. -/
def isSame (c : Collation) (v w : Value) : Bool :=
  match v.isNull, w.isNull with
  | true, true => true
  | false, false => Value.compareWith c v w == .eq
  | _, _ => false

/-- Whether two values are equal; unknown if one of them is NULL. -/
def equality? (c : Collation) (v w : Value) : Option Bool :=
  if v.isNull || w.isNull then none else some (Value.compareWith c v w == .eq)

/-- Whether two values stand in an order; unknown if one of them is NULL. -/
def ordered? (operator : String) (c : Collation) (holds : Ordering → Bool) (v w : Value) :
    Except EvalError (Option Bool) :=
  if v.isNull || w.isNull then .ok none
  else (Value.orderFor operator c v w).map fun o => some (holds o)

/-- A pattern operator on two values. -/
def patternTruth? (options : Options) (op : BinaryOperator) (v w : Value) : Except EvalError (Option Bool) :=
  if v.isNull || w.isNull then .ok none
  else (patternMatch options op v.display w.display).map some

/-- The result of a binary operator that its left operand settles. -/
def decided? (op : BinaryOperator) (v : Value) : Option Value :=
  match op, v.truth? with
  | .and, some false => some (.boolean false)
  | .or, some true => some (.boolean true)
  | _, _ => none

/-- A binary operator on two values. -/
def combine (options : Options) (op : BinaryOperator) (c : Collation) (v w : Value) :
    Except EvalError Value :=
  match op with
  | .and => .ok (.ofTruth (conj v.truth? w.truth?))
  | .or => .ok (.ofTruth (disj v.truth? w.truth?))
  | .is => .ok (.boolean (isSame c v w))
  | .equal => .ok (.ofTruth (equality? c v w))
  | .notEqual => .ok (.ofTruth (invert? (equality? c v w)))
  | .lessThan => (ordered? op.symbol c Ordering.isLT v w).map .ofTruth
  | .lessThanOrEqual => (ordered? op.symbol c Ordering.isLE v w).map .ofTruth
  | .greaterThan => (ordered? op.symbol c Ordering.isGT v w).map .ofTruth
  | .greaterThanOrEqual => (ordered? op.symbol c Ordering.isGE v w).map .ofTruth
  | .like | .glob | .regexp | .match => (patternTruth? options op v w).map .ofTruth
  | .concat => .ok (concat v w)
  | op => arithmetic op v w

/-- A unary operator on a value. -/
def UnaryOperator.apply (op : UnaryOperator) (v : Value) : Except EvalError Value :=
  match op with
  | .not => .ok v.invert
  | .negate => SqlFormula.negate v
  | .plus => .ok v

/-- Whether a value lies between two others, the ends included. -/
def between (c : Collation) (v low high : Value) : Except EvalError (Option Bool) := do
  let above ← ordered? "BETWEEN" c Ordering.isGE v low
  let below ← ordered? "BETWEEN" c Ordering.isLE v high
  return conj above below

/-- Whether a value is equal to one of some candidates. NULL makes it unknown where it could matter. -/
def isAmong? (v : Value) (candidates : List Value) : Option Bool :=
  if candidates.isEmpty then some false
  else if v.isNull then none
  else if candidates.any fun w => !w.isNull && v.equals w then some true
  else if candidates.any Value.isNull then none
  else some false

/-- The collation of a comparison: that of the first operand that carries one. -/
def collationOf (operands : List Expr) : Collation :=
  (operands.findSome? Expr.collation?).getD .binary

/-! ### Expressions -/

namespace Expr

variable (ctx : Context) (record : Record)

mutual

/-- The value of an expression. -/
def eval : Expr → Except EvalError Value
  | .literal v => .ok v
  | .field path => record.field path
  | .unary op operand => do op.apply (← eval operand)
  | .binary op negate left right => do
    let v ← eval left
    let result ← match decided? op v with
      | some result => .ok result
      | none => do
        let w ← eval right
        combine ctx.options op (collationOf [left, right]) v w
    return result.invertIf negate
  | .call f args =>
    match f with
    | .coalesce | .ifNull => do
      f.checkArity args.length
      firstNonNull args
    | .iif => do
      f.checkArity args.length
      if (← evalAt f 0 args).truth? == some true then evalAt f 1 args else evalAt f 2 args
    | f =>
      if f.isAggregate args.length then do
        f.checkArity args.length
        Gathering.ofOne f (← evalFirst args)
      else do Call.onValues f ctx (← evalAll args)
  | .caseWhen clauses otherwise => do
    match ← evalClauses (fun _ v => v.truth? == some true) clauses with
    | some v => return v
    | none => eval otherwise
  | .caseOf operand clauses otherwise => do
    let base ← eval operand
    let isChosen (condition : Expr) (v : Value) : Bool :=
      equality? (collationOf [operand, condition]) base v == some true
    match ← evalClauses isChosen clauses with
    | some v => return v
    | none => eval otherwise
  | .between negate operand low high => do
    let v ← eval operand
    let least ← eval low
    let most ← eval high
    let truth ← SqlFormula.between (collationOf [operand, low, high]) v least most
    return (Value.ofTruth truth).invertIf negate
  | .among negate operand candidates => do
    let v ← eval operand
    return (Value.ofTruth (isAmong? v (← evalAll candidates))).invertIf negate
  | .cast operand target => do castTo target (← eval operand)
  | .collate operand _ => eval operand

/-- The values of some expressions, from the first to the last. -/
def evalAll : List Expr → Except EvalError (List Value)
  | [] => .ok []
  | e :: es => do
    let v ← eval e
    return v :: (← evalAll es)

/-- The value of the first expression; without one, a value that counts. -/
def evalFirst : List Expr → Except EvalError Value
  | [] => .ok (.boolean true)
  | e :: _ => eval e

/-- The first value that is not NULL. What comes after it is not evaluated. -/
def firstNonNull : List Expr → Except EvalError Value
  | [] => .ok .null
  | e :: es => do
    let v ← eval e
    if v.isNull then firstNonNull es else return v

/-- The value of the argument at an index, which has to be there. The others are not evaluated. -/
def evalAt (f : Builtin) (index : Nat) : List Expr → Except EvalError Value
  | [] => .error (.missingArgument f.name index)
  | e :: es => if index = 0 then eval e else evalAt f (index - 1) es

/-- The result of the first clause that is chosen by its condition and the value of it. -/
def evalClauses (isChosen : Expr → Value → Bool) : List (Expr × Expr) → Except EvalError (Option Value)
  | [] => .ok none
  | (condition, result) :: rest => do
    let v ← eval condition
    if isChosen condition v then return some (← eval result) else evalClauses isChosen rest

end

/-- Whether a condition holds: NULL counts as false. -/
def check (e : Expr) : Except EvalError Bool := do
  return (← eval ctx record e).truth? == some true

end Expr

end SqlFormula
