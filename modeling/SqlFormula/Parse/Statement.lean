import SqlFormula.Parse.Expression
import SqlFormula.Syntax.Statement

/-!
# Reading statements

## Main definitions

- `statement` — the reader of statements; a semicolon at the end is left
-/

namespace SqlFormula.Parser

open Reader

/-! ### Tables -/

/-- Reads `ASC` or `DESC`, if one of them comes next, and tells whether it was `DESC`. -/
def descending : Parser Bool := do
  if ← eatKeyword .DESC then pure true
  else
    let _ ← eatKeyword .ASC
    pure false

/-- Reads the value after a sign in a `DEFAULT`. -/
def signedDefault (negative : Bool) : Parser Expr := do
  let t ← nextToken "number"
  if t.kind = .number then return .literal (← ofExcept (numberValue t negative))
  else fail (unexpected t "number")

/-- Whether a word is a literal. -/
def isLiteralWord (k : Keyword) : Bool :=
  k == .NULL || k == .TRUE || k == .FALSE

/-- Reads the value of a `DEFAULT`: a literal, a number with a sign, an expression in parentheses, or a free
word, which stands for its own text. -/
def defaultValue : Parser Expr := do
  match ← peek? with
  | none => endOfInput "default value"
  | some t =>
    match t.kind with
    | .symbol =>
      if t.isSymbol "(" then parenthesized expression
      else match Levels.signOperator? t with
        | some op =>
          skip 1
          signedDefault (op = .negate)
        | none => fail (unexpected t "default value")
    | .number | .string | .blob => (levels nestingLimit).primary
    | .word =>
      match t.keyword? with
      | some k =>
        if isLiteralWord k then (levels nestingLimit).primary else fail (unexpected t "default value")
      | none =>
        skip 1
        pure (.literal (.text t.text))
    | .quotedIdentifier => fail (unexpected t "default value")

/-- Reads the table and the columns that a foreign key refers to. -/
def foreignKeyTarget : Parser ForeignKeyTarget := do
  let table ← qualifiedName "table name"
  if ← nextIsSymbol "(" then return { table, columns := ← identifierList "column name" }
  else pure { table, columns := [] }

/-- Whether a word starts a clause of a column. -/
def isColumnClause : Keyword → Bool
  | .PRIMARY | .NOT | .NULL | .DEFAULT | .UNIQUE | .CHECK | .COLLATE | .REFERENCES => true
  | _ => false

/-- Adds a constraint to a column. -/
def addConstraint (column : Column) (name : Option String) (kind : ColumnConstraint) : Column :=
  { column with constraints := column.constraints ++ [{ name, kind }] }

/-- Reads a clause of a column after its first word. -/
def columnClause (word : Keyword) (name : Option String) (column : Column) : Parser Column := do
  match word with
  | .PRIMARY =>
    expectKeyword .KEY
    let descending ← descending
    let autoincrement ← eatKeyword .AUTOINCREMENT
    pure (addConstraint column name (.primaryKey descending autoincrement))
  | .NOT =>
    expectKeyword .NULL
    pure { column with nullable := false }
  | .NULL => pure { column with nullable := true }
  | .DEFAULT => return { column with default := some (← defaultValue) }
  | .UNIQUE => pure (addConstraint column name .unique)
  | .CHECK => return addConstraint column name (.check (← parenthesized expression))
  | .COLLATE => return addConstraint column name (.collate (← collationName))
  | .REFERENCES => return addConstraint column name (.references (← foreignKeyTarget))
  | _ => errorAtFront "column constraint"

/-- The word that starts the next clause of a column; the name of a constraint comes before it. -/
def columnWord? (ts : List Token) : Option Keyword :=
  (ts.head?.bind Token.keyword?).filter fun k => k == .CONSTRAINT || isColumnClause k

/-- Reads a clause of a column with its name, after the first word. -/
def namedColumnClause (word : Keyword) (column : Column) : Parser Column := do
  if word = .CONSTRAINT then
    let name ← expectIdentifier "constraint name"
    match (← peekKeyword?).filter isColumnClause with
    | some word =>
      skip 1
      columnClause word (some name) column
    | none => errorAtFront "column constraint"
  else columnClause word none column

/-- Reads the definition of a column. -/
def column : Parser Column := do
  let name ← expectIdentifier "column name"
  let type ← typeName?
  loop columnWord? (fun word column => do
      skip 1
      namedColumnClause word column)
    (fun _ _ => (Consuming.skip 0).bind_left _)
    { name, type, nullable := true, default := none, constraints := [] }

/-- Whether a word starts a constraint of a table. -/
def isTableWord : Keyword → Bool
  | .CONSTRAINT | .PRIMARY | .UNIQUE | .CHECK | .FOREIGN => true
  | _ => false

/-- Reads a constraint of a table after its name. -/
def tableConstraintKind : Parser TableConstraint := do
  let t ← nextToken "table constraint"
  match t.keyword? with
  | some .PRIMARY =>
    expectKeyword .KEY
    return .primaryKey (← identifierList "column name")
  | some .UNIQUE => return .unique (← identifierList "column name")
  | some .CHECK => return .check (← parenthesized expression)
  | some .FOREIGN =>
    expectKeyword .KEY
    let columns ← identifierList "column name"
    expectKeyword .REFERENCES
    return .foreignKey columns (← foreignKeyTarget)
  | _ => fail (unexpected t "table constraint")

/-- Reads a constraint of a table. -/
def tableConstraint : Parser (Named TableConstraint) := do
  if ← eatKeyword .CONSTRAINT then
    let name ← expectIdentifier "constraint name"
    return { name := some name, kind := ← tableConstraintKind }
  else return { name := none, kind := ← tableConstraintKind }

/-- The parts of a table that were read so far. -/
structure TableParts where
  columns : List Column
  constraints : List (Named TableConstraint)

/-- Reads a column or a constraint of a table. Columns come first. -/
def tablePart (parts : TableParts) : Parser TableParts := do
  if (← peekKeyword?).any isTableWord then
    return { parts with constraints := parts.constraints ++ [← tableConstraint] }
  else if parts.constraints.isEmpty then
    return { parts with columns := parts.columns ++ [← column] }
  else errorAtFront "table constraint"

/-- The comma that comes next. -/
def commaAhead? (ts : List Token) : Option Token :=
  ts.head?.filter isComma

/-- Reads the columns and constraints of a table between commas. -/
def tableParts : Parser TableParts := do
  let parts ← tablePart { columns := [], constraints := [] }
  loop commaAhead? (fun _ parts => do
      skip 1
      tablePart parts)
    (fun _ _ => (Consuming.skip 0).bind_left _) parts

/-- Reads `IF NOT EXISTS`, if it comes next. -/
def ifNotExists : Parser Bool := do
  if ← eatKeyword .IF then
    expectKeyword .NOT
    expectKeyword .EXISTS
    pure true
  else pure false

/-- Reads `CREATE TABLE` after its first word. -/
def createTable : Parser CreateTable := do
  expectKeyword .TABLE
  let ifNotExists ← ifNotExists
  let name ← qualifiedName "table name"
  let opening ← expectSymbol "("
  let parts ← tableParts
  expectClosing opening
  if parts.columns.isEmpty then
    fail (.unexpectedToken "column definition" "table constraint" opening)
  else pure { name, columns := parts.columns, constraints := parts.constraints, ifNotExists }

/-- Reads `IF EXISTS`, if it comes next. -/
def ifExists : Parser Bool := do
  if ← eatKeyword .IF then
    expectKeyword .EXISTS
    pure true
  else pure false

/-- Reads `DROP TABLE` after its first word. -/
def dropTable : Parser DropTable := do
  expectKeyword .TABLE
  let ifExists ← ifExists
  return { name := ← qualifiedName "table name", ifExists }

/-! ### Rows -/

/-- Reads what to do with a row that breaks a constraint. -/
def conflictResolution : Parser ConflictResolution := do
  let t ← nextToken "conflict resolution"
  match t.keyword? with
  | some .REPLACE => pure .replace
  | some .IGNORE => pure .ignore
  | some .ABORT => pure .abort
  | some .FAIL => pure .fail
  | some .ROLLBACK => pure .rollback
  | _ => fail (unexpected t "REPLACE, IGNORE, ABORT, FAIL or ROLLBACK")

/-- Reads a row of values; there have to be as many as columns, if columns are named. -/
def row (columns : List String) : Parser (List Expr) := do
  let opening ← expectSymbol "("
  let values ← commaList expression
  expectClosing opening
  if columns.isEmpty || values.length == columns.length then pure values
  else fail (.unexpectedToken s!"{columns.length} values" s!"{values.length} values" opening)

/-- Reads `INSERT` or `REPLACE` after the words that say what to do about conflicts. -/
def insertInto (onConflict : Option ConflictResolution) : Parser Insert := do
  expectKeyword .INTO
  let table ← qualifiedName "table name"
  let columns ← if ← nextIsSymbol "(" then identifierList "column name" else pure []
  expectKeyword .VALUES
  return { table, columns, rows := ← commaList (row columns), onConflict }

/-- Reads `INSERT` after its first word. -/
def insert : Parser Insert := do
  if ← eatKeyword .OR then insertInto (some (← conflictResolution)) else insertInto none

/-- Reads the condition after `WHERE`, if it comes next. -/
def whereClause : Parser (Option Expr) := do
  if ← eatKeyword .WHERE then return some (← expression) else pure none

/-- Reads the assignment of a value to a column. -/
def assignment : Parser (String × Expr) := do
  let column ← expectIdentifier "column name"
  let _ ← expectSymbol "="
  return (column, ← expression)

/-- Reads `UPDATE` after its first word. -/
def update : Parser Update := do
  let table ← qualifiedName "table name"
  expectKeyword .SET
  let assignments ← commaList assignment
  return { table, assignments, condition := ← whereClause }

/-- Reads `DELETE` after its first word. -/
def delete : Parser Delete := do
  expectKeyword .FROM
  let table ← qualifiedName "table name"
  return { table, condition := ← whereClause }

/-! ### Queries -/

/-- Reads a second name of a result column, if there is one. -/
def columnAlias : Parser (Option String) := do
  if ← eatKeyword .AS then return some (← expectIdentifier "column alias")
  else
    match ← peek? with
    | some t =>
      if t.isIdentifier then
        skip 1
        pure (some t.text)
      else pure none
    | none => pure none

/-- Reads a result column. -/
def resultColumn : Parser ResultColumn := do
  if ← eatSymbol "*" then pure .all
  else
    let e ← expression
    return .expr e (← columnAlias)

/-- Reads `DISTINCT` or `ALL`, if one of them comes next, and tells whether it was `DISTINCT`. -/
def distinct : Parser Bool := do
  if ← eatKeyword .DISTINCT then pure true
  else
    let _ ← eatKeyword .ALL
    pure false

/-- Reads the table after `FROM`, if it comes next. -/
def fromClause : Parser (Option String) := do
  if ← eatKeyword .FROM then return some (← qualifiedName "table name") else pure none

/-- Reads a key of an ordering. -/
def orderingTerm : Parser OrderingTerm := do
  let key ← expression
  return { key, descending := ← descending }

/-- Reads the keys after `ORDER BY`, if it comes next. -/
def orderClause : Parser (List OrderingTerm) := do
  if ← eatKeyword .ORDER then
    expectKeyword .BY
    commaList orderingTerm
  else pure []

/-- Reads the limit and the offset after `LIMIT`, if it comes next. With a comma the offset comes first. -/
def limitClause : Parser (Option Expr × Option Expr) := do
  if ← eatKeyword .LIMIT then
    let first ← expression
    if ← eatKeyword .OFFSET then return (some first, some (← expression))
    else if ← eatSymbol "," then return (some (← expression), some first)
    else pure (some first, none)
  else pure (none, none)

/-- Reads `SELECT` after its first word. -/
def select : Parser Select := do
  let distinct ← distinct
  let columns ← commaList resultColumn
  let table ← fromClause
  let condition ← whereClause
  let ordering ← orderClause
  let (limit, offset) ← limitClause
  pure { distinct, columns, table, condition, ordering, limit, offset }

/-! ### Statements -/

/-- The reader for the rest of a statement, given its first word. -/
def statementBody? : Keyword → Option (Parser Statement)
  | .CREATE => some do return .createTable (← createTable)
  | .DROP => some do return .dropTable (← dropTable)
  | .INSERT => some do return .insert (← insert)
  | .REPLACE => some do return .insert (← insertInto (some .replace))
  | .UPDATE => some do return .update (← update)
  | .DELETE => some do return .delete (← delete)
  | .SELECT => some do return .select (← select)
  | _ => none

/-- Reads a statement, given the token that comes next. -/
def statementFrom (t : Token) : Parser Statement :=
  match t.keyword?.bind statementBody? with
  | some body => do
    skip 1
    body
  | none =>
    if t.kind = .word then fail (.unknownKeyword t.text t.offset)
    else fail (unexpected t "statement")

/-- Reads a statement; a semicolon at its end is left. -/
def statement : Parser Statement := do
  match ← peek? with
  | some t => statementFrom t
  | none => endOfInput "statement"

theorem consuming_statementFrom (t : Token) : (statementFrom t).Consuming := by
  unfold statementFrom
  split
  · exact (Consuming.skip 0).bind_left _
  · split <;> exact Consuming.fail _

end SqlFormula.Parser
