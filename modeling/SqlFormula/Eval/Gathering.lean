import SqlFormula.Eval.MathFunctions
import SqlFormula.Eval.TextFunctions

/-!
# Gathering values

An aggregate function gathers the values of its argument, one after the other. NULL is left out.

## Main definitions

- `RunningSum` — a sum that stays exact for as long as it is an integer of 64 bits
- `Gathering` — what has been gathered so far
- `Gathering.add`, `Gathering.result`
-/

namespace SqlFormula

/-- A sum so far. -/
inductive RunningSum where
  | exact (i : Int64)
  | rounded (x : Float)

namespace RunningSum

/-- A sum as a double. -/
def toFloat : RunningSum → Float
  | .exact i => Number.ofInt64 i
  | .rounded x => x

/-- Adds an integer; a sum beyond 64 bits goes on as a double. -/
def addInteger (j : Int64) : RunningSum → RunningSum
  | .exact i =>
    match Number.int64? (i.toInt + j.toInt) with
    | some k => .exact k
    | none => .rounded (Number.ofInt64 i + Number.ofInt64 j)
  | .rounded x => .rounded (x + Number.ofInt64 j)

/-- Adds a number. -/
def add (sum : RunningSum) : Value → RunningSum
  | .integer j => sum.addInteger j
  | v => .rounded (sum.toFloat + v.asFloat?.getD 0.0)

/-- A sum as a value. -/
def toValue : RunningSum → Value
  | .exact i => .integer i
  | .rounded x => .float x

end RunningSum

/-- What has been gathered. -/
inductive Gathering where
  | count (n : Nat)
  /-- The sum of the numbers, if there was one. -/
  | sum (s : Option RunningSum)
  /-- The sum of the numbers as a double. -/
  | total (x : Float)
  | average (total : Float) (count : Nat)
  | extreme (best : Option Value)
  /-- The texts of the values with a separator between them, if there was one. -/
  | joined (s : Option String)

namespace Gathering

/-- What a function begins with; nothing for functions that do not gather. -/
def start? : Builtin → Option Gathering
  | .count => some (.count 0)
  | .sum => some (.sum none)
  | .total => some (.total 0.0)
  | .avg => some (.average 0.0 0)
  | .min | .max => some (.extreme none)
  | .groupConcat => some (.joined none)
  | _ => none

/-- A gathered value as a number. -/
def number (f : Builtin) (v : Value) : Except EvalError Value :=
  match v.toNumber? with
  | some n => .ok n
  | none => .error (f.argumentError 0 "number" v)

/-- Adds a text after a separator, which counts only where there is text before. -/
def join (separator : Unit → Except EvalError String) (part : String) :
    Option String → Except EvalError String
  | none => .ok part
  | some s => do return s ++ (← separator ()) ++ part

/-- Adds a value that is not NULL. -/
def addValue (f : Builtin) (separator : Unit → Except EvalError String) (v : Value) :
    Gathering → Except EvalError Gathering
  | .count n => .ok (.count (n + 1))
  | .sum s => do return .sum (some ((s.getD (.exact 0)).add (← number f v)))
  | .total x => do return .total (x + (← number f v).asFloat?.getD 0.0)
  | .average x n => do return .average (x + (← number f v).asFloat?.getD 0.0) (n + 1)
  | .extreme none => .ok (.extreme (some v))
  | .extreme (some best) => .ok (.extreme (some (better f.wanted best v)))
  | .joined s => do return .joined (some (← join separator v.display s))

/-- Adds a value; NULL changes nothing. -/
def add (f : Builtin) (separator : Unit → Except EvalError String) (v : Value) (g : Gathering) :
    Except EvalError Gathering :=
  if v.isNull then .ok g else g.addValue f separator v

/-- The result of a function over everything gathered. -/
def result : Gathering → Value
  | .count n => .ofNat n
  | .sum s => (s.map RunningSum.toValue).getD .null
  | .total x => .float x
  | .average x n => if n = 0 then .null else .float (x / Number.ofInt n)
  | .extreme best => best.getD .null
  | .joined s => (s.map Value.text).getD .null

/-- The result of a function over one value. -/
def ofOne (f : Builtin) (v : Value) : Except EvalError Value :=
  match start? f with
  | some g => do return (← g.add f (fun _ => .ok ",") v).result
  | none => .error (.notAggregate (f.name ++ "()"))

end Gathering

end SqlFormula
