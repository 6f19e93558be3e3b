import SqlFormula.Eval.Arguments
import SqlFormula.Value.Order

/-!
# Functions on numbers

## Main definitions

- `roundTo` — a double rounded to some decimal places
- `extreme?` — the least or the greatest of some values
- `Call.onNumbers?` — the functions of this family
-/

namespace SqlFormula

/-- A double rounded to a number of decimal places, by way of the double nearest to the shifted one. -/
def roundTo (x : Float) (places : Nat) : Float :=
  let factor := Number.ofInt (Nat.pow 10 places)
  Number.round (x * factor) / factor

/-- The absolute value of an integer; that of the least one is a float. -/
def absInteger (i : Int64) : Value :=
  match Number.int64? i.toInt.natAbs with
  | some j => .integer j
  | none => .float (Number.ofInt64 i).abs

/-- The sign of an integer. -/
def signOf (i : Int64) : Value :=
  .integer (Int64.ofInt i.toInt.sign)

/-- The sign of a double; 0 for a NaN. -/
def signOfFloat (x : Float) : Value :=
  .integer (if x > 0.0 then 1 else if x < 0.0 then -1 else 0)

/-- The order by which a value takes the place of the best one so far. -/
def Builtin.wanted (f : Builtin) : Ordering :=
  match f with
  | .min => .lt
  | _ => .gt

/-- The better of two values; the first one if neither is. -/
def better (wanted : Ordering) (best v : Value) : Value :=
  if Value.compareWith .binary v best == wanted then v else best

/-- The best of some values; of equally good ones the first. -/
def extreme? (wanted : Ordering) : List Value → Option Value
  | [] => none
  | v :: vs => some (vs.foldl (better wanted) v)

namespace Call

/-- A function on numbers, applied to the first argument. -/
def mapNumber (f : Builtin) (integer : Int64 → Value) (float : Float → Value) (args : List Value) :
    Except EvalError Value := do
  match ← f.numberArg args 0 with
  | some (.integer i) => return integer i
  | some (.float x) => return float x
  | _ => return .null

/-- A call of `round`; the places are limited to 15. -/
def ofRound (args : List Value) : Except EvalError Value := do
  let places ← Builtin.round.integerArg args 1
  match ← Builtin.round.numberArg args 0 with
  | some n => return .float (roundTo (n.asFloat?.getD 0.0) (min (places.getD 0).toInt 15).toNat)
  | none => return .null

/-- The square root of a number that is not negative. -/
def squareRoot (x : Float) : Value :=
  if x ≥ 0.0 then .float x.sqrt else .null

/-- A call of `power`; a result that is no number is NULL. -/
def ofPower (args : List Value) : Except EvalError Value := do
  let base? ← Builtin.power.numberArg args 0
  let exponent? ← Builtin.power.numberArg args 1
  match base?, exponent? with
  | some base, some exponent =>
    let x := (base.asFloat?.getD 0.0).pow (exponent.asFloat?.getD 0.0)
    return if Number.isFinite x then .float x else .null
  | _, _ => return .null

/-- A call of `min` or `max` with several arguments; NULL if one of them is. -/
def ofExtreme (f : Builtin) (args : List Value) : Value :=
  if args.any Value.isNull then .null else (extreme? f.wanted args).getD .null

/-- A call of a function on numbers; nothing for other functions. -/
def onNumbers? (f : Builtin) (args : List Value) : Option (Except EvalError Value) :=
  match f with
  | .abs => some (mapNumber f absInteger (fun x => .float x.abs) args)
  | .round => some (ofRound args)
  | .sign => some (mapNumber f signOf signOfFloat args)
  | .ceil => some (mapNumber f .integer (fun x => .float (Number.ceil x)) args)
  | .floor => some (mapNumber f .integer (fun x => .float (Number.floor x)) args)
  | .sqrt => some (mapNumber f (fun i => squareRoot (Number.ofInt64 i)) squareRoot args)
  | .power => some (ofPower args)
  | .min | .max => if 2 ≤ args.length then some (.ok (ofExtreme f args)) else none
  | _ => none

end Call

end SqlFormula
