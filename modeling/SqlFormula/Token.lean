import SqlFormula.Builtin
import SqlFormula.Keyword

/-!
# Tokens

The words that statements and formulas are made of, each with the byte offset at which it starts.

## Main definitions

- `Token` — a token, with its kind and its text without delimiters
- `Token.keyword?`, `Token.builtin?`, `Token.isIdentifier` — what a word can stand for
- `Token.display` — the token as messages show it
-/

namespace SqlFormula

namespace Token

/-- The kinds of tokens. -/
inductive Kind where
  /-- A word: a reserved word, the name of a function or a plain identifier. -/
  | word
  /-- An identifier between quotes, back quotes or square brackets. -/
  | quotedIdentifier
  /-- Text between apostrophes. -/
  | string
  /-- A number without sign. -/
  | number
  /-- The digits of a blob, `X'CAFE'`. -/
  | blob
  /-- An operator or a punctuation mark. -/
  | symbol
  deriving DecidableEq, Repr

/-- The name of a kind. -/
def Kind.name : Kind → String
  | .word => "Word"
  | .quotedIdentifier => "QuotedIdentifier"
  | .string => "String"
  | .number => "Number"
  | .blob => "Blob"
  | .symbol => "Symbol"

end Token

/-- A token: its kind, its text without delimiters and with doubled delimiters undone, and the byte
offset of its first character. -/
structure Token where
  kind : Token.Kind
  text : String
  offset : Nat
  deriving DecidableEq, Repr

namespace Token

/-- The reserved word that a token is. -/
def keyword? (t : Token) : Option Keyword :=
  match t.kind with
  | .word => Keyword.lookup t.text
  | _ => none

/-- The function that a token names. -/
def builtin? (t : Token) : Option Builtin :=
  match t.kind with
  | .word => Builtin.lookup t.text
  | _ => none

/-- Whether the token is the given reserved word. -/
def isKeyword (t : Token) (k : Keyword) : Bool :=
  t.keyword? == some k

/-- Whether the token is the given operator or punctuation mark. -/
def isSymbol (t : Token) (s : String) : Bool :=
  t.kind == .symbol && t.text == s

/-- Whether the token can be a name: a quoted identifier or a word that is not reserved. -/
def isIdentifier (t : Token) : Bool :=
  match t.kind with
  | .quotedIdentifier => true
  | .word => t.keyword?.isNone
  | _ => false

/-- The token as messages show it: text in apostrophes, quoted identifiers in quotes. -/
def display (t : Token) : String :=
  match t.kind with
  | .string => "'" ++ t.text ++ "'"
  | .quotedIdentifier => "\"" ++ t.text ++ "\""
  | .blob => "X'" ++ t.text ++ "'"
  | _ => t.text

end Token

end SqlFormula
