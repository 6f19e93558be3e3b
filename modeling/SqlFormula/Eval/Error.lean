/-!
# Errors of evaluation

## Main definitions

- `EvalError`
- `EvalError.message` — the error in words
-/

namespace SqlFormula

/-- What is wrong with a pattern. -/
inductive PatternFault where
  /-- It has more characters than are allowed. -/
  | tooLong (limit : Nat)
  /-- It is no regular expression, or one that is too large. -/
  | rejected
  deriving DecidableEq, Repr

/-- Why an expression has no value. -/
inductive EvalError where
  | missingField (path : String)
  | arity (function expected : String) (found : Nat)
  | argumentType (function : String) (index : Nat) (expected found : String)
  | typeMismatch (operator left right : String)
  | invalidOperand (operator operand : String)
  | divisionByZero
  | invalidPattern (pattern : String) (fault : PatternFault)
  | invalidCast (value target : String)
  | invalidDate (text : String)
  | notAggregate (expression : String)
  | unsupportedFunction (function : String)
  /-- The clocks of a time zone show a time beyond the last year. -/
  | localTimeOutOfRange
  /-- A function reads an argument that the call does not have. -/
  | missingArgument (function : String) (index : Nat)
  /-- A position in a text that a function computes does not fit into 64 bits. -/
  | positionOutOfRange (function : String)
  deriving DecidableEq, Repr

namespace EvalError

/-- The name of the kind of error. -/
def name : EvalError → String
  | .missingField _ => "MissingField"
  | .arity .. => "Arity"
  | .argumentType .. => "ArgumentType"
  | .typeMismatch .. => "TypeMismatch"
  | .invalidOperand .. => "InvalidOperand"
  | .divisionByZero => "DivisionByZero"
  | .invalidPattern .. => "InvalidPattern"
  | .invalidCast .. => "InvalidCast"
  | .invalidDate _ => "InvalidDate"
  | .notAggregate _ => "NotAggregate"
  | .unsupportedFunction _ => "UnsupportedFunction"
  | .localTimeOutOfRange => "LocalTimeOutOfRange"
  | .missingArgument .. => "MissingArgument"
  | .positionOutOfRange _ => "PositionOutOfRange"

/-- What is said of a pattern after its text. -/
def faultText : PatternFault → String
  | .tooLong limit => s!": pattern too long (max {limit} chars)"
  | .rejected => ""

/-- The error in words. -/
def message : EvalError → String
  | .missingField path => s!"Field '{path}' not found in record"
  | .arity function expected found => s!"{function}() expects {expected} argument(s), got {found}"
  | .argumentType function index expected found =>
    s!"{function}() argument {index}: expected {expected}, got {found}"
  | .typeMismatch operator left right =>
    s!"Operator {operator} is not defined for {left} and {right}"
  | .invalidOperand operator operand => s!"Operator {operator} is not defined for {operand}"
  | .divisionByZero => "Division by zero"
  | .invalidPattern pattern fault => s!"Invalid pattern '{pattern}'" ++ faultText fault
  | .invalidCast value target => s!"Cannot cast {value} to {target}"
  | .invalidDate text => s!"Invalid date/time value '{text}'"
  | .notAggregate expression => s!"{expression} is not an aggregate function call"
  | .unsupportedFunction function => s!"{function}() cannot be evaluated as a scalar function"
  | .localTimeOutOfRange => "Local time out of range"
  | .missingArgument function index => s!"{function}() has no argument {index + 1}"
  | .positionOutOfRange function => s!"{function}() position out of range"

end EvalError

end SqlFormula
