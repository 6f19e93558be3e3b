import SqlFormula.Parse.Basic
import SqlFormula.Syntax.Operator

/-!
# What can follow an operand

An operand is continued by a binary operator, a range, a list of candidates, a test for NULL or a
collation. The tokens of the operator tell which it is; operators of words may have two.

## Main definitions

- `Continuation`, `Continuation.precedence`
- `continuation?` — the continuation that comes next, if any
-/

namespace SqlFormula

/-- How an operand can be continued. -/
inductive Continuation where
  | binary (op : BinaryOperator) (negate : Bool)
  | between (negate : Bool)
  | among (negate : Bool)
  /-- `ISNULL`, `NOTNULL` and `NOT NULL`. -/
  | nullTest (negate : Bool)
  | collate
  deriving DecidableEq, Repr

/-! ### Precedence classes, the loosest first -/

namespace Precedence

/-- Every operator binds at least this tight. -/
def lowest : Nat := 0

/-- `OR`. -/
def or : Nat := 1

/-- `AND`. -/
def and : Nat := 2

/-- The operand of `NOT`. -/
def not : Nat := 3

/-- Comparisons, patterns and tests. -/
def comparison : Nat := 4

/-- `+` and `-`. -/
def additive : Nat := 5

/-- `*`, `/` and `%`. -/
def multiplicative : Nat := 6

/-- `||`. -/
def concat : Nat := 7

/-- `COLLATE`. -/
def collate : Nat := 8

end Precedence

/-- The precedence class of a binary operator. -/
def BinaryOperator.precedence : BinaryOperator → Nat
  | .or => Precedence.or
  | .and => Precedence.and
  | .add | .subtract => Precedence.additive
  | .multiply | .divide | .modulo => Precedence.multiplicative
  | .concat => Precedence.concat
  | .equal | .notEqual | .lessThan | .lessThanOrEqual | .greaterThan | .greaterThanOrEqual | .is
  | .like | .glob | .regexp | .match => Precedence.comparison

/-- The precedence class of a continuation. -/
def Continuation.precedence : Continuation → Nat
  | .binary op _ => op.precedence
  | .between _ | .among _ | .nullTest _ => Precedence.comparison
  | .collate => Precedence.collate

namespace Parser

/-- The operator that a mark stands for. -/
def markOperator? : String → Option BinaryOperator
  | "+" => some .add
  | "-" => some .subtract
  | "*" => some .multiply
  | "/" => some .divide
  | "%" => some .modulo
  | "||" => some .concat
  | "=" | "==" => some .equal
  | "!=" | "<>" => some .notEqual
  | "<" => some .lessThan
  | "<=" => some .lessThanOrEqual
  | ">" => some .greaterThan
  | ">=" => some .greaterThanOrEqual
  | _ => none

/-- The operator that a token stands for, if it is a mark. -/
def symbolOperator? (t : Token) : Option BinaryOperator :=
  match t.kind with
  | .symbol => markOperator? t.text
  | _ => none

/-- The pattern operator that a reserved word stands for. -/
def patternOperator? : Keyword → Option BinaryOperator
  | .LIKE => some .like
  | .GLOB => some .glob
  | .REGEXP => some .regexp
  | .MATCH => some .match
  | _ => none

/-- The continuation that starts with a reserved word, and whether the word after it belongs to it as
well. -/
def wordContinuation? (word : Keyword) (following : Option Keyword) : Option (Continuation × Bool) :=
  match word with
  | .AND => some (.binary .and false, false)
  | .OR => some (.binary .or false, false)
  | .BETWEEN => some (.between false, false)
  | .IN => some (.among false, false)
  | .ISNULL => some (.nullTest false, false)
  | .NOTNULL => some (.nullTest true, false)
  | .COLLATE => some (.collate, false)
  | .IS =>
    if following = some .NOT then some (.binary .is true, true) else some (.binary .is false, false)
  | .NOT =>
    match following with
    | none => none
    | some .BETWEEN => some (.between true, true)
    | some .IN => some (.among true, true)
    | some .NULL => some (.nullTest true, true)
    | some other => (patternOperator? other).map fun op => (.binary op true, true)
  | other => (patternOperator? other).map fun op => (.binary op false, false)

/-- The continuation that comes next, and whether its operator has a second token. -/
def continuation? : List Token → Option (Continuation × Bool)
  | [] => none
  | t :: rest =>
    match symbolOperator? t with
    | some op => some (.binary op false, false)
    | none =>
      match t.keyword? with
      | none => none
      | some word => wordContinuation? word (rest.head?.bind Token.keyword?)

end Parser

end SqlFormula
