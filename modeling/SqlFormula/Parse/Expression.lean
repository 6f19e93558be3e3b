import SqlFormula.Number.Reading
import SqlFormula.Parse.Continuation
import SqlFormula.Syntax.Expr
import SqlFormula.Text.Hex
import SqlFormula.Value

/-!
# Reading expressions

An operand is read and then continued for as long as the next tokens call for it. The right side of an
operator is read at the operator's own precedence, so operators of one class group from the right:
`10 - 4 - 3` is `10 - (4 - 3)`.

Nesting is limited. The readers for the parts of an expression at one level are made from those of the
level below, and the lowest level only fails.

A number is an integer if it has neither a point nor an exponent and fits into 64 bits together with its
sign, else a float.

## Main definitions

- `numberValue` — the value of a number with a sign
- `Levels` — the readers for what is nested inside an expression
- `levels` — these readers, with so many levels of nesting left
- `expression` — the reader of expressions
-/

namespace SqlFormula.Parser

open Reader

/-- The readers for what can be nested inside an expression. -/
structure Levels where
  /-- An operand with its unary operators. -/
  operand : Parser Expr
  /-- An expression of operators that bind at least so tight. -/
  expression : Nat → Parser Expr

/-! ### Numbers -/

/-- Whether a number is written with a point or an exponent. -/
def isFloatText (cs : List Char) : Bool :=
  cs.any fun c => c == '.' || c == 'e' || c == 'E'

/-- The value of a number with a sign. -/
def numberValue (t : Token) (negative : Bool) : Except ParseError Value :=
  let cs := if negative then '-' :: t.text.toList else t.text.toList
  let integer? := if isFloatText cs then none else Number.readInt64? cs
  match integer? with
  | some i => .ok (.integer i)
  | none =>
    match Number.readDecimal? cs with
    | some d => .ok (.float (d.nearest Number.double))
    | none => .error (.unexpectedToken "number" t.text t.offset)

/-- The number of a size: an integer, or the whole part of a float. -/
def sizeOf (v : Value) : Option Int64 :=
  match v with
  | .integer i => some i
  | .float x => some (Number.toInt64Nearest x)
  | _ => none

/-! ### Words and operands -/

/-- Reads the name of a collation. -/
def collationName : Parser Collation := do
  let t ← nextToken "collation name"
  if t.kind = .word ∨ t.kind = .quotedIdentifier then
    match Collation.lookup t.text with
    | some c => pure c
    | none => fail (.unknownKeyword t.text t.offset)
  else fail (unexpected t "collation name")

/-- The word that a declared type is continued with. -/
def typeWord? (ts : List Token) : Option String :=
  (ts.head?.filter fun t => t.kind == .word && t.keyword?.isNone).map Token.text

/-- Reads the words of a declared type. -/
def typeWords : Parser (List String) := do
  let words ← loop typeWord? (fun word words => do
      skip 1
      pure (word :: words))
    (fun _ _ => (Consuming.skip 0).bind_left _) []
  pure words.reverse

/-- Reads a size of a declared type. -/
def typeSize : Parser (Option Int64) := do
  let negative ← eatSymbol "-"
  if !negative then
    let _ ← eatSymbol "+"
  let t ← nextToken "type size"
  if t.kind = .number then return sizeOf (← ofExcept (numberValue t negative))
  else fail (unexpected t "type size")

/-- Reads a declared type with its sizes, if there is one. -/
def typeName? : Parser (Option TypeName) := do
  let words ← typeWords
  if words.isEmpty then pure none
  else if ← nextIsSymbol "(" then
    let sizes ← parenthesized (commaList typeSize)
    return some (.declare (" ".intercalate words) (sizes.filterMap id))
  else return some (.declare (" ".intercalate words) [])

/-- The bytes of a blob. -/
def blobValue (t : Token) : Except ParseError Value :=
  match Text.Hex.decode t.text.toList with
  | some bytes => .ok (.blob bytes)
  | none => .error (.unexpectedToken "hexadecimal blob literal" t.display t.offset)

/-- Fails because of the arguments of a call. -/
def malformedArguments {α : Type} (function reason : String) : Parser α := do
  fail (.malformedArguments function reason (← offset))

/-- Fails because of a `CASE`. -/
def malformedCase {α : Type} (reason : String) : Parser α := do
  fail (.malformedCase reason (← offset))

namespace Levels

variable (inner : Levels)

/-- Reads an argument of a call. -/
def argument (function : String) : Parser Expr := do
  if (← nextIsSymbol ")") || (← nextIsSymbol ",") then malformedArguments function "empty argument"
  else inner.expression Precedence.lowest

/-- Reads the closing parenthesis of a call. -/
def closeCall (function : String) (opening : Nat) : Parser Unit := do
  match ← peek? with
  | some t => if t.isSymbol ")" then skip 1 else malformedArguments function "expected ',' or ')'"
  | none => fail (.mismatchedParenthesis (unclosed opening) (← stop))

/-- Whether the next tokens are those of `*)`. -/
def isStarAlone : List Token → Bool
  | star :: closing :: _ => star.isSymbol "*" && closing.isSymbol ")"
  | _ => false

/-- Reads the arguments of a call; `count` also takes a star, which stands for none. -/
def callArguments (f : Builtin) (function : String) : Parser (List Expr) := do
  let opening ← expectSymbol "("
  if ← eatSymbol ")" then pure []
  else if f = .count ∧ isStarAlone (← ahead) then
    skip 2
    pure []
  else if ← nextIsKeyword .DISTINCT then malformedArguments function "DISTINCT is not supported"
  else
    let args ← commaList (inner.argument function)
    closeCall function opening
    pure args

/-- Reads a clause of a `CASE` after its `WHEN`. -/
def clause : Parser (Expr × Expr) := do
  let condition ← inner.expression Precedence.lowest
  if ← eatKeyword .THEN then
    let result ← inner.expression Precedence.lowest
    pure (condition, result)
  else malformedCase "expected THEN after WHEN condition"

/-- Whether `WHEN` comes next. -/
def whenAhead? (ts : List Token) : Option Unit :=
  if ts.head?.any (Token.isKeyword · .WHEN) then some () else none

/-- Reads the clauses of a `CASE`, at least one. -/
def clauses : Parser (List (Expr × Expr)) := do
  if ← nextIsKeyword .WHEN then
    let read ← loop whenAhead? (fun _ read => do
        skip 1
        let c ← inner.clause
        pure (c :: read))
      (fun _ _ => (Consuming.skip 0).bind_left _) []
    pure read.reverse
  else malformedCase "expected WHEN"

/-- Reads `ELSE`, which no `CASE` may lack, and its expression. -/
def otherwise (start : Nat) : Parser Expr := do
  if ← eatKeyword .ELSE then inner.expression Precedence.lowest
  else if ← nextIsKeyword .END then
    malformedCase s!"missing ELSE in CASE starting at offset {start}"
  else malformedCase "expected WHEN, ELSE or END"

/-- Reads the operand of a `CASE`, if it has one. -/
def caseOperand? : Parser (Option Expr) := do
  if ← nextIsKeyword .WHEN then pure none
  else if (← nextIsKeyword .ELSE) || (← nextIsKeyword .END) then malformedCase "expected WHEN"
  else return some (← inner.expression Precedence.lowest)

/-- Reads a `CASE` after its first word, which stands at an offset. -/
def caseExpression (start : Nat) : Parser Expr := do
  let operand? ← inner.caseOperand?
  let clauses ← inner.clauses
  let otherwise ← inner.otherwise start
  if ← eatKeyword .END then
    match operand? with
    | some operand => pure (.caseOf operand clauses otherwise)
    | none => pure (.caseWhen clauses otherwise)
  else malformedCase "missing END"

/-- Reads a `CAST` after its first word. -/
def castExpression (function : String) : Parser Expr :=
  parenthesized do
    let operand ← inner.expression Precedence.lowest
    expectKeyword .AS
    match ← typeName? with
    | some target => pure (.cast operand target)
    | none => malformedArguments function "missing target type"

/-- Reads an operand that starts with a word. -/
def wordOperand : Parser Expr := do
  let t ← nextToken "expression"
  let isCall ← nextIsSymbol "("
  match t.keyword? with
  | some .TRUE => pure (.literal (.boolean true))
  | some .FALSE => pure (.literal (.boolean false))
  | some .NULL => pure (.literal .null)
  | some .CASE => inner.caseExpression t.offset
  | some .CAST => inner.castExpression t.text
  | keyword? =>
    match isCall, t.builtin? with
    | true, some f => return .call f (← inner.callArguments f t.text)
    | true, none =>
      if keyword?.isSome then fail (unexpected t "expression")
      else fail (.unknownFunction t.text t.offset)
    | false, _ =>
      if keyword?.isSome then fail (unexpected t "expression")
      else return .field (← nameParts t.text)

/-- Reads an operand without operators. -/
def primary : Parser Expr := do
  match ← peek? with
  | none => endOfInput "expression"
  | some t =>
    match t.kind with
    | .number =>
      skip 1
      return .literal (← ofExcept (numberValue t false))
    | .string =>
      skip 1
      pure (.literal (.text t.text))
    | .blob =>
      skip 1
      return .literal (← ofExcept (blobValue t))
    | .quotedIdentifier =>
      skip 1
      return .field (← nameParts t.text)
    | .symbol =>
      if t.isSymbol "(" then parenthesized (inner.expression Precedence.lowest)
      else fail (unexpected t "expression")
    | .word => inner.wordOperand

/-- The operator that a sign stands for. -/
def signOperator? (t : Token) : Option UnaryOperator :=
  if t.isSymbol "-" then some .negate
  else if t.isSymbol "+" then some .plus
  else none

/-- Reads what follows a sign. A minus sign before a number is part of it, so the least integer can be
written. -/
def signed (op : UnaryOperator) : Parser Expr := do
  match ← peek? with
  | some t =>
    if op = .negate ∧ t.kind = .number then
      skip 1
      return .literal (← ofExcept (numberValue t true))
    else return .unary op (← inner.operand)
  | none => return .unary op (← inner.operand)

/-- Reads an operand with its unary operators. `NOT` takes everything that binds tighter than `AND`. -/
def unary : Parser Expr := do
  if ← eatKeyword .NOT then return .unary .not (← inner.expression Precedence.not)
  else
    match (← peek?).bind signOperator? with
    | some op =>
      skip 1
      inner.signed op
    | none => inner.primary

/-- Reads candidates between parentheses; there may be none. -/
def candidates : Parser (List Expr) := do
  let opening ← expectSymbol "("
  if ← eatSymbol ")" then pure []
  else
    let es ← commaList (inner.expression Precedence.lowest)
    expectClosing opening
    pure es

/-- Reads the rest of a continuation after its operator. -/
def continueWith (left : Expr) : Continuation → Parser Expr
  | .binary op negate => do
    return .binary op negate left (← inner.expression op.precedence)
  | .between negate => do
    let low ← inner.expression Precedence.additive
    expectKeyword .AND
    let high ← inner.expression Precedence.additive
    pure (.between negate left low high)
  | .among negate => do
    return .among negate left (← inner.candidates)
  | .nullTest negate => pure (.binary .is negate left (.literal .null))
  | .collate => do
    return .collate left (← collationName)

/-- The continuation that comes next, if it binds at least so tight. -/
def tightContinuation? (least : Nat) (ts : List Token) : Option (Continuation × Bool) :=
  (continuation? ts).filter fun (c, _) => least ≤ c.precedence

/-- Continues an operand for as long as the next operator binds at least so tight. -/
def extend (least : Nat) (left : Expr) : Parser Expr :=
  loop (tightContinuation? least) (fun (c, isPair) left => do
      skip 1
      if isPair then skip 1
      inner.continueWith left c)
    (fun _ _ => (Consuming.skip 0).bind_left _) left

end Levels

/-- How deep expressions can be nested. -/
def nestingLimit : Nat := 256

/-- Fails because nesting is too deep. -/
def tooDeep : Parser Expr := do
  fail (.tooDeep nestingLimit (← offset))

/-- The readers for the parts of an expression with so many levels of nesting left. -/
def levels : Nat → Levels
  | 0 => { operand := tooDeep, expression := fun _ => tooDeep }
  | n + 1 =>
    let inner := levels n
    { operand := inner.unary
      expression := fun least => do
        let left ← inner.unary
        inner.extend least left }

/-- Reads an expression from the front of the tokens; what cannot continue it is left. -/
def expression : Parser Expr :=
  (levels nestingLimit).expression Precedence.lowest

end SqlFormula.Parser
