import SqlFormula.Token.Lexer

/-!
# Errors of the parser

Every error knows the byte offset of the token at which reading stopped.

## Main definitions

- `ParseError`
- `ParseError.message`, `ParseError.offset`, `ParseError.statementIndex?`
-/

namespace SqlFormula

/-- Why a text is no formula or statement. -/
inductive ParseError where
  /-- The text cannot be split into tokens. -/
  | unterminated (e : Unterminated)
  | unexpectedToken (expected found : String) (place : Nat)
  | unexpectedEnd (expected : String) (place : Nat)
  | unknownKeyword (word : String) (place : Nat)
  | unknownFunction (name : String) (place : Nat)
  | mismatchedParenthesis (found : String) (place : Nat)
  | malformedCase (reason : String) (place : Nat)
  | malformedArguments (function reason : String) (place : Nat)
  | tooDeep (limit : Nat) (place : Nat)
  /-- The error of one statement in a sequence, counted from 0. -/
  | inStatement (index : Nat) (inner : ParseError)
  deriving DecidableEq, Repr

namespace ParseError

/-- The name of the kind of error. -/
def name : ParseError → String
  | .unterminated _ => "UnterminatedLiteral"
  | .unexpectedToken .. => "UnexpectedToken"
  | .unexpectedEnd .. => "UnexpectedEnd"
  | .unknownKeyword .. => "UnknownKeyword"
  | .unknownFunction .. => "UnknownFunction"
  | .mismatchedParenthesis .. => "MismatchedParenthesis"
  | .malformedCase .. => "MalformedCase"
  | .malformedArguments .. => "MalformedArguments"
  | .tooDeep .. => "TooDeep"
  | .inStatement .. => "InStatement"

/-- The error in words. -/
def message : ParseError → String
  | .unterminated e => e.message
  | .unexpectedToken expected found place => s!"Expected {expected}, found '{found}' at offset {place}"
  | .unexpectedEnd expected place => s!"Expected {expected}, found end of input at offset {place}"
  | .unknownKeyword word place => s!"Unknown keyword '{word}' at offset {place}"
  | .unknownFunction name place => s!"Unknown function '{name}' at offset {place}"
  | .mismatchedParenthesis found place => s!"Mismatched parenthesis '{found}' at offset {place}"
  | .malformedCase reason place => s!"Malformed CASE expression at offset {place}: {reason}"
  | .malformedArguments function reason place =>
    s!"Malformed argument list for {function} at offset {place}: {reason}"
  | .tooDeep limit place => s!"Expression nested deeper than {limit} levels at offset {place}"
  | .inStatement index inner => s!"Statement {index}: " ++ inner.message

/-- The byte offset at which reading stopped. -/
def offset : ParseError → Nat
  | .unterminated e => e.offset
  | .unexpectedToken _ _ place | .unexpectedEnd _ place | .unknownKeyword _ place
  | .unknownFunction _ place | .mismatchedParenthesis _ place | .malformedCase _ place
  | .malformedArguments _ _ place | .tooDeep _ place => place
  | .inStatement _ inner => inner.offset

/-- Which statement of a sequence is wrong. -/
def statementIndex? : ParseError → Option Nat
  | .inStatement index _ => some index
  | _ => none

end ParseError

end SqlFormula
