import SqlFormula.Text.LetterCase

/-!
# Operators and collations

## Main definitions

- `UnaryOperator`, `BinaryOperator` — the operators of formulas
- `BinaryOperator.isPattern`, `BinaryOperator.isComparison` — their classes
- `Collation` — rules for comparing texts
-/

namespace SqlFormula

/-- An operator with one operand. -/
inductive UnaryOperator where
  | not
  | negate
  | plus
  deriving DecidableEq, Repr

namespace UnaryOperator

/-- All unary operators. -/
def all : List UnaryOperator :=
  [.not, .negate, .plus]

/-- The name of the operator in a syntax tree. -/
def tag : UnaryOperator → String
  | .not => "Not"
  | .negate => "Negate"
  | .plus => "Plus"

/-- The operator with the given name in a syntax tree. -/
def ofTag? (s : String) : Option UnaryOperator :=
  all.find? fun op => op.tag == s

end UnaryOperator

/-- An operator with two operands. -/
inductive BinaryOperator where
  | add | subtract | multiply | divide | modulo | concat
  | equal | notEqual | lessThan | lessThanOrEqual | greaterThan | greaterThanOrEqual
  /-- Equality that takes NULL as a value like any other. -/
  | is
  | and | or
  | like | glob | regexp | match
  deriving DecidableEq, Repr

namespace BinaryOperator

/-- All binary operators. -/
def all : List BinaryOperator :=
  [.add, .subtract, .multiply, .divide, .modulo, .concat, .equal, .notEqual, .lessThan,
   .lessThanOrEqual, .greaterThan, .greaterThanOrEqual, .is, .and, .or, .like, .glob, .regexp,
   .match]

/-- The operator as it is written. -/
def symbol : BinaryOperator → String
  | .add => "+"
  | .subtract => "-"
  | .multiply => "*"
  | .divide => "/"
  | .modulo => "%"
  | .concat => "||"
  | .equal => "="
  | .notEqual => "<>"
  | .lessThan => "<"
  | .lessThanOrEqual => "<="
  | .greaterThan => ">"
  | .greaterThanOrEqual => ">="
  | .is => "IS"
  | .and => "AND"
  | .or => "OR"
  | .like => "LIKE"
  | .glob => "GLOB"
  | .regexp => "REGEXP"
  | .match => "MATCH"

/-- The name of the operator in a syntax tree. -/
def tag : BinaryOperator → String
  | .add => "Add"
  | .subtract => "Subtract"
  | .multiply => "Multiply"
  | .divide => "Divide"
  | .modulo => "Modulo"
  | .concat => "Concat"
  | .equal => "Equal"
  | .notEqual => "NotEqual"
  | .lessThan => "LessThan"
  | .lessThanOrEqual => "LessThanOrEqual"
  | .greaterThan => "GreaterThan"
  | .greaterThanOrEqual => "GreaterThanOrEqual"
  | .is => "Is"
  | .and => "And"
  | .or => "Or"
  | .like => "Like"
  | .glob => "Glob"
  | .regexp => "Regexp"
  | .match => "Match"

/-- The operator with the given name in a syntax tree. -/
def ofTag? (s : String) : Option BinaryOperator :=
  all.find? fun op => op.tag == s

/-- Whether the operator tests a text against a pattern. -/
def isPattern : BinaryOperator → Bool
  | .like | .glob | .regexp | .match => true
  | _ => false

/-- Whether the operator compares two values. -/
def isComparison : BinaryOperator → Bool
  | .equal | .notEqual | .lessThan | .lessThanOrEqual | .greaterThan | .greaterThanOrEqual
  | .is => true
  | _ => false

end BinaryOperator

/-- A rule for comparing texts. -/
inductive Collation where
  /-- Character by character. -/
  | binary
  /-- Without regard to the case of letters. -/
  | noCase
  /-- Without regard to blanks at the end. -/
  | rTrim
  deriving DecidableEq, Repr

namespace Collation

/-- The name of the collation in a syntax tree. -/
def tag : Collation → String
  | .binary => "Binary"
  | .noCase => "NoCase"
  | .rTrim => "RTrim"

/-- All collations. -/
def all : List Collation :=
  [.binary, .noCase, .rTrim]

/-- The collation with the given name in a syntax tree. -/
def ofTag? (s : String) : Option Collation :=
  all.find? fun c => c.tag == s

/-- The collation that a word names in any case of its ASCII letters. -/
def lookup (s : String) : Option Collation :=
  let word := Text.asciiUpper s
  all.find? fun c => Text.asciiUpper c.tag == word

end Collation

end SqlFormula
