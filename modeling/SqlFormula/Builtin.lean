import SqlFormula.Text.LetterCase

/-!
# Builtin functions

The names of the functions that formulas can call, the numbers of arguments that they take, and
which of them aggregate over records.

## Main definitions

- `Builtin` — the functions
- `Builtin.lookup` — the function that a word names, with its second names
- `Builtin.arity`, `Builtin.isAggregate`
-/

namespace SqlFormula

/-- A builtin function. -/
inductive Builtin where
  | lower | upper | length | substr | trim | ltrim | rtrim | replace | instr | concat | hex | char
  | unicode | abs | round | sign | ceil | floor | sqrt | power | coalesce | ifNull | nullIf | iif
  | typeOf | count | sum | total | avg | min | max | groupConcat | now | date | time | dateTime
  | strFTime | unixEpoch
  deriving DecidableEq, Repr

namespace Builtin

/-- All builtin functions. -/
def all : List Builtin :=
  [.lower, .upper, .length, .substr, .trim, .ltrim, .rtrim, .replace, .instr, .concat, .hex,
   .char, .unicode, .abs, .round, .sign, .ceil, .floor, .sqrt, .power, .coalesce, .ifNull,
   .nullIf, .iif, .typeOf, .count, .sum, .total, .avg, .min, .max, .groupConcat, .now, .date,
   .time, .dateTime, .strFTime, .unixEpoch]

/-- The name of the function. -/
def name : Builtin → String
  | .lower => "lower"
  | .upper => "upper"
  | .length => "length"
  | .substr => "substr"
  | .trim => "trim"
  | .ltrim => "ltrim"
  | .rtrim => "rtrim"
  | .replace => "replace"
  | .instr => "instr"
  | .concat => "concat"
  | .hex => "hex"
  | .char => "char"
  | .unicode => "unicode"
  | .abs => "abs"
  | .round => "round"
  | .sign => "sign"
  | .ceil => "ceil"
  | .floor => "floor"
  | .sqrt => "sqrt"
  | .power => "power"
  | .coalesce => "coalesce"
  | .ifNull => "ifnull"
  | .nullIf => "nullif"
  | .iif => "iif"
  | .typeOf => "typeof"
  | .count => "count"
  | .sum => "sum"
  | .total => "total"
  | .avg => "avg"
  | .min => "min"
  | .max => "max"
  | .groupConcat => "group_concat"
  | .now => "now"
  | .date => "date"
  | .time => "time"
  | .dateTime => "datetime"
  | .strFTime => "strftime"
  | .unixEpoch => "unixepoch"

/-- The name of the function in a syntax tree. -/
def tag : Builtin → String
  | .lower => "Lower"
  | .upper => "Upper"
  | .length => "Length"
  | .substr => "Substr"
  | .trim => "Trim"
  | .ltrim => "Ltrim"
  | .rtrim => "Rtrim"
  | .replace => "Replace"
  | .instr => "Instr"
  | .concat => "Concat"
  | .hex => "Hex"
  | .char => "Char"
  | .unicode => "Unicode"
  | .abs => "Abs"
  | .round => "Round"
  | .sign => "Sign"
  | .ceil => "Ceil"
  | .floor => "Floor"
  | .sqrt => "Sqrt"
  | .power => "Power"
  | .coalesce => "Coalesce"
  | .ifNull => "IfNull"
  | .nullIf => "NullIf"
  | .iif => "Iif"
  | .typeOf => "TypeOf"
  | .count => "Count"
  | .sum => "Sum"
  | .total => "Total"
  | .avg => "Avg"
  | .min => "Min"
  | .max => "Max"
  | .groupConcat => "GroupConcat"
  | .now => "Now"
  | .date => "Date"
  | .time => "Time"
  | .dateTime => "DateTime"
  | .strFTime => "StrFTime"
  | .unixEpoch => "UnixEpoch"

/-- Second names of functions. -/
def alias? : String → Option Builtin
  | "substring" => some .substr
  | "ceiling" => some .ceil
  | "pow" => some .power
  | _ => none

/-- The function that a word names in any case of its ASCII letters. -/
def lookup (s : String) : Option Builtin :=
  let word := Text.asciiLower s
  (all.find? fun f => f.name == word).or (alias? word)

/-- The function with the given name in a syntax tree. -/
def ofTag? (s : String) : Option Builtin :=
  all.find? fun f => f.tag == s

/-- How many arguments a function takes: at least so many, and at most so many if there is a bound. -/
structure Arity where
  least : Nat
  most : Option Nat
  deriving DecidableEq, Repr

namespace Arity

/-- Whether `n` arguments are enough and not too many. -/
def admits (a : Arity) (n : Nat) : Bool :=
  a.least ≤ n && a.most.all (n ≤ ·)

/-- The arity in words. -/
def describe (a : Arity) : String :=
  match a.most with
  | none => s!"at least {a.least}"
  | some most => if a.least = most then toString most else s!"{a.least} to {most}"

end Arity

/-- The numbers of arguments that a function takes. -/
def arity : Builtin → Arity
  | .lower | .upper | .length | .hex | .unicode | .abs | .sign | .ceil | .floor | .sqrt | .typeOf
  | .sum | .total | .avg => ⟨1, some 1⟩
  | .substr => ⟨2, some 3⟩
  | .trim | .ltrim | .rtrim | .round | .groupConcat => ⟨1, some 2⟩
  | .replace | .iif => ⟨3, some 3⟩
  | .instr | .power | .ifNull | .nullIf => ⟨2, some 2⟩
  | .concat | .min | .max | .strFTime => ⟨1, none⟩
  | .char | .date | .time | .dateTime | .unixEpoch => ⟨0, none⟩
  | .coalesce => ⟨2, none⟩
  | .count => ⟨0, some 1⟩
  | .now => ⟨0, some 0⟩

/-- Whether a call with `n` arguments gathers its argument over many records. `min` and `max` of two
or more arguments are plain functions. -/
def isAggregate (f : Builtin) (n : Nat) : Bool :=
  match f with
  | .count | .sum | .total | .avg | .groupConcat => true
  | .min | .max => n == 1
  | _ => false

end Builtin

end SqlFormula
