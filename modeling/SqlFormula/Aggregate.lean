import SqlFormula.Eval

/-!
# Aggregates

An aggregate call is evaluated over many records: it takes them in one after the other, and gives a result at
any time.

## Main definitions

- `Aggregate` — a call that gathers
- `Tally` — what a call has taken in so far
- `Aggregate.accumulate` — taking in one more record
-/

namespace SqlFormula

/-- A call of a function that gathers its argument over records. -/
structure Aggregate where
  function : Builtin
  /-- What is gathered; every record counts where there is nothing. -/
  argument : Option Expr
  /-- What stands between texts that are joined. -/
  separator : Option Expr
  /-- What the function begins with. -/
  start : Gathering

/-- What an aggregate call has taken in: how many records, and what was gathered from them. -/
structure Tally where
  rows : Nat
  gathered : Gathering

namespace Aggregate

/-- The aggregate call with a function and its arguments. -/
def ofCall (f : Builtin) (args : List Expr) : Except EvalError Aggregate := do
  f.checkArity args.length
  match Gathering.start? f with
  | some start => return { function := f, argument := args.head?, separator := args[1]?, start := start }
  | none => .error (.notAggregate (f.name ++ "()"))

/-- The aggregate call that an expression is. -/
def ofExpr : Expr → Except EvalError Aggregate
  | .call f args =>
    if f.isAggregate args.length then ofCall f args else .error (.notAggregate (f.name ++ "()"))
  | _ => .error (.notAggregate "expression")

variable (a : Aggregate)

/-- The tally before any record. -/
def begin : Tally :=
  ⟨0, a.start⟩

/-- The separator in a record, as text. -/
def separatorText (ctx : Context) (record : Record) : Except EvalError String :=
  match a.separator with
  | some e => do return (← e.eval ctx record).display
  | none => .ok ","

/-- What is gathered from a record. -/
def argumentValue (ctx : Context) (record : Record) : Except EvalError Value :=
  match a.argument with
  | some e => e.eval ctx record
  | none => .ok (.boolean true)

/-- Takes in what one record adds. -/
def gather (ctx : Context) (record : Record) (g : Gathering) : Except EvalError Gathering := do
  let v ← a.argumentValue ctx record
  g.add a.function (fun _ => a.separatorText ctx record) v

/-- Takes in a record. It counts as a row also where there is an error, but then adds nothing else. -/
def accumulate (ctx : Context) (record : Record) (t : Tally) : Tally × Option EvalError :=
  match a.gather ctx record t.gathered with
  | .ok g => (⟨t.rows + 1, g⟩, none)
  | .error e => (⟨t.rows + 1, t.gathered⟩, some e)

end Aggregate

/-- The result over everything taken in. -/
def Tally.result (t : Tally) : Value :=
  t.gathered.result

end SqlFormula
