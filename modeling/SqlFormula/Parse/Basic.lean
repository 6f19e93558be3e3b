import SqlFormula.Parse.Error
import SqlFormula.Reader

/-!
# Reading tokens

The steps that the grammars of expressions and statements share.

## Main definitions

- `Parser` — readers of tokens
- `Parser.expectKeyword`, `Parser.expectSymbol`, `Parser.expectIdentifier` — a token that has to be there
- `Parser.qualifiedName`, `Parser.identifierList`
-/

namespace SqlFormula

/-- A reader of tokens. -/
abbrev Parser := Reader Token ParseError

namespace Parser

open Reader

/-- The error for a token that is not what is expected. A closing parenthesis lacks its opening one. -/
def unexpected (t : Token) (expected : String) : ParseError :=
  if t.isSymbol ")" then .mismatchedParenthesis t.text t.offset
  else .unexpectedToken expected t.display t.offset

/-- Fails because there are no more tokens. -/
def endOfInput {α : Type} (expected : String) : Parser α := do
  fail (.unexpectedEnd expected (← stop))

/-- Fails because of the next token, or because there is none. -/
def errorAtFront {α : Type} (expected : String) : Parser α := do
  match ← peek? with
  | some t => fail (unexpected t expected)
  | none => endOfInput expected

/-- The offset of the next token, or of the end of the text. -/
def offset : Parser Nat := do
  match ← peek? with
  | some t => pure t.offset
  | none => stop

/-- Takes the next token, which has to exist. -/
def nextToken (expected : String) : Parser Token := do
  match ← next? with
  | some t => pure t
  | none => endOfInput expected

/-- The reserved word that comes next. -/
def peekKeyword? : Parser (Option Keyword) := do
  return (← peek?).bind Token.keyword?

/-- Whether a reserved word comes next. -/
def nextIsKeyword (k : Keyword) : Parser Bool := do
  return (← peekKeyword?) = some k

/-- Whether an operator or a punctuation mark comes next. -/
def nextIsSymbol (s : String) : Parser Bool := do
  return (← peek?).any (Token.isSymbol · s)

/-- Takes a reserved word if it comes next. -/
def eatKeyword (k : Keyword) : Parser Bool := do
  let found ← nextIsKeyword k
  if found then skip 1
  pure found

/-- Takes an operator or a punctuation mark if it comes next. -/
def eatSymbol (s : String) : Parser Bool := do
  let found ← nextIsSymbol s
  if found then skip 1
  pure found

/-- Takes a reserved word, which has to come next. -/
def expectKeyword (k : Keyword) : Parser Unit := do
  if ← eatKeyword k then pure () else errorAtFront k.display

/-- Takes an operator or a punctuation mark, which has to come next, and returns its offset. -/
def expectSymbol (s : String) : Parser Nat := do
  let place ← offset
  if ← eatSymbol s then pure place else errorAtFront ("'" ++ s ++ "'")

/-- What is wrong if the text ends before a parenthesis is closed. -/
def unclosed (opening : Nat) : String :=
  s!"unclosed '(' at offset {opening}"

/-- Takes the closing parenthesis for one that was opened at an offset. -/
def expectClosing (opening : Nat) : Parser Unit := do
  if ← eatSymbol ")" then pure ()
  else match ← peek? with
    | some t => fail (.mismatchedParenthesis t.display t.offset)
    | none => fail (.mismatchedParenthesis (unclosed opening) (← stop))

/-- Takes a name. -/
def expectIdentifier (what : String) : Parser String := do
  match ← peek? with
  | some t =>
    if t.isIdentifier then
      skip 1
      pure t.text
    else fail (unexpected t what)
  | none => endOfInput what

/-- The name after a point, if these are the next tokens. -/
def pointAndName? : List Token → Option String
  | point :: t :: _ => if point.isSymbol "." && t.isIdentifier then some t.text else none
  | _ => none

/-- Reads the further parts of a name with points. -/
def nameParts (first : String) : Parser String :=
  loop pointAndName? (fun part path => do
      skip 2
      pure (path ++ "." ++ part))
    (fun _ _ => (Consuming.skip 1).bind_left _) first

/-- Reads a name with points in it or not, such as `main.users`. -/
def qualifiedName (what : String) : Parser String := do
  nameParts (← expectIdentifier what)

/-- Whether a token is a comma. -/
def isComma (t : Token) : Bool :=
  t.isSymbol ","

/-- Reads items between commas. -/
def commaList {α : Type} (item : Parser α) : Parser (List α) :=
  sepBy1 isComma item

/-- Reads something between parentheses. -/
def parenthesized {α : Type} (inner : Parser α) : Parser α := do
  let opening ← expectSymbol "("
  let a ← inner
  expectClosing opening
  pure a

/-- Reads names between parentheses and commas. -/
def identifierList (what : String) : Parser (List String) :=
  parenthesized (commaList (expectIdentifier what))

end Parser

end SqlFormula
