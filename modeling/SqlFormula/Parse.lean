import SqlFormula.Parse.Statement

/-!
# Formulas and statements from their texts

## Main definitions

- `parseFormula` — a text that is one expression
- `parseStatements` — a text of any number of statements with semicolons between them
- `parseStatement` — a text of exactly one statement
-/

namespace SqlFormula

namespace Parser

open Reader

/-- Reads a whole text of tokens. -/
def runOn {α : Type} (p : Parser α) (text : String) : Except ParseError α :=
  match tokenize text with
  | .ok tokens => (p.run text.utf8ByteSize tokens).1
  | .error e => .error (.unterminated e)

/-- Reads an expression that is all there is, with a semicolon after it or not. -/
def formula : Parser Expr := do
  let e ← expression
  let _ ← eatSymbol ";"
  match ← peek? with
  | some t => fail (unexpected t "end of expression")
  | none => pure e

/-- Reads the end of a statement: a semicolon, or nothing more. -/
def endOfStatement : Parser Unit := do
  match ← peek? with
  | none => pure ()
  | some t => if t.isSymbol ";" then skip 1 else fail (unexpected t "';' or end of input")

/-- Reads a statement of a sequence with its end, given the token that comes next. Its error tells which
statement it is. -/
def sequenceItem (index : Nat) (t : Token) : Parser Statement :=
  mapError (.inStatement index) do
    let s ← statementFrom t
    endOfStatement
    pure s

/-- Reads a statement of a sequence or a superfluous semicolon, given the token that comes next. The last
statement comes first in the list. -/
def sequenceStep (t : Token) (read : List Statement) : Parser (List Statement) :=
  if t.isSymbol ";" then do
    skip 1
    pure read
  else do
    let s ← sequenceItem read.length t
    pure (s :: read)

theorem consuming_sequenceStep (t : Token) (read : List Statement) :
    (sequenceStep t read).Consuming := by
  unfold sequenceStep
  split
  · exact (Consuming.skip 0).bind_left _
  · exact (((consuming_statementFrom t).bind_left _).mapError _).bind_left _

/-- Reads statements with semicolons between them. -/
def statements : Parser (List Statement) := do
  let read ← loop List.head? sequenceStep consuming_sequenceStep []
  pure read.reverse

end Parser

/-- The expression that a text is. -/
def parseFormula (text : String) : Except ParseError Expr :=
  Parser.formula.runOn text

/-- The statements that a text consists of. -/
def parseStatements (text : String) : Except ParseError (List Statement) :=
  Parser.statements.runOn text

/-- The only statement of a text. -/
def parseStatement (text : String) : Except ParseError Statement := do
  match ← parseStatements text with
  | [s] => .ok s
  | [] => .error (.unexpectedEnd "statement" text.utf8ByteSize)
  | many => .error (.unexpectedToken "a single statement" s!"{many.length} statements" 0)

end SqlFormula
