import SqlFormula.Text.LetterCase

/-!
# Reserved words

The reserved words of statements and formulas. A constructor is written as the word appears in a
statement; words are recognised in any mix of upper and lower case.

## Main definitions

- `Keyword` — the reserved words
- `Keyword.lookup` — the reserved word that a text spells
-/

namespace SqlFormula

/-- A reserved word. -/
inductive Keyword where
  | ABORT | ALL | AND | AS | ASC | AUTOINCREMENT | BETWEEN | BY | CASE | CAST | CHECK | COLLATE
  | CONSTRAINT | CREATE | DEFAULT | DELETE | DESC | DISTINCT | DROP | ELSE | END | EXISTS | FAIL
  | FALSE | FOREIGN | FROM | GLOB | IF | IGNORE | IN | INSERT | INTO | IS | ISNULL | KEY | LIKE
  | LIMIT | MATCH | NOT | NOTNULL | NULL | OFFSET | OR | ORDER | PRIMARY | REFERENCES | REGEXP
  | REPLACE | ROLLBACK | SELECT | SET | TABLE | THEN | TRUE | UNIQUE | UPDATE | VALUES | WHEN
  | WHERE
  deriving DecidableEq, Repr

namespace Keyword

/-- All reserved words, in alphabetical order. -/
def all : List Keyword :=
  [.ABORT, .ALL, .AND, .AS, .ASC, .AUTOINCREMENT, .BETWEEN, .BY, .CASE, .CAST, .CHECK, .COLLATE,
   .CONSTRAINT, .CREATE, .DEFAULT, .DELETE, .DESC, .DISTINCT, .DROP, .ELSE, .END, .EXISTS, .FAIL,
   .FALSE, .FOREIGN, .FROM, .GLOB, .IF, .IGNORE, .IN, .INSERT, .INTO, .IS, .ISNULL, .KEY, .LIKE,
   .LIMIT, .MATCH, .NOT, .NOTNULL, .NULL, .OFFSET, .OR, .ORDER, .PRIMARY, .REFERENCES, .REGEXP,
   .REPLACE, .ROLLBACK, .SELECT, .SET, .TABLE, .THEN, .TRUE, .UNIQUE, .UPDATE, .VALUES, .WHEN,
   .WHERE]

/-- The word in lower case. -/
def name : Keyword → String
  | .ABORT => "abort"
  | .ALL => "all"
  | .AND => "and"
  | .AS => "as"
  | .ASC => "asc"
  | .AUTOINCREMENT => "autoincrement"
  | .BETWEEN => "between"
  | .BY => "by"
  | .CASE => "case"
  | .CAST => "cast"
  | .CHECK => "check"
  | .COLLATE => "collate"
  | .CONSTRAINT => "constraint"
  | .CREATE => "create"
  | .DEFAULT => "default"
  | .DELETE => "delete"
  | .DESC => "desc"
  | .DISTINCT => "distinct"
  | .DROP => "drop"
  | .ELSE => "else"
  | .END => "end"
  | .EXISTS => "exists"
  | .FAIL => "fail"
  | .FALSE => "false"
  | .FOREIGN => "foreign"
  | .FROM => "from"
  | .GLOB => "glob"
  | .IF => "if"
  | .IGNORE => "ignore"
  | .IN => "in"
  | .INSERT => "insert"
  | .INTO => "into"
  | .IS => "is"
  | .ISNULL => "isnull"
  | .KEY => "key"
  | .LIKE => "like"
  | .LIMIT => "limit"
  | .MATCH => "match"
  | .NOT => "not"
  | .NOTNULL => "notnull"
  | .NULL => "null"
  | .OFFSET => "offset"
  | .OR => "or"
  | .ORDER => "order"
  | .PRIMARY => "primary"
  | .REFERENCES => "references"
  | .REGEXP => "regexp"
  | .REPLACE => "replace"
  | .ROLLBACK => "rollback"
  | .SELECT => "select"
  | .SET => "set"
  | .TABLE => "table"
  | .THEN => "then"
  | .TRUE => "true"
  | .UNIQUE => "unique"
  | .UPDATE => "update"
  | .VALUES => "values"
  | .WHEN => "when"
  | .WHERE => "where"

/-- The word in upper case, as messages show it. -/
def display (k : Keyword) : String :=
  Text.asciiUpper k.name

/-- The reserved word that a text spells in any case of its ASCII letters. -/
def lookup (s : String) : Option Keyword :=
  let word := Text.asciiLower s
  all.find? fun k => k.name == word

end Keyword

end SqlFormula
