import SqlFormula.Value.Number

/-!
# Logic with three values

A condition is true, false, or unknown where it depends on a value that is NULL.

## Main definitions

- `conj`, `disj`, `invert?` — the connectives
- `Value.ofTruth` — a condition as a value
-/

namespace SqlFormula

/-- Whether both of two conditions hold. One that is false settles it. -/
def conj : Option Bool → Option Bool → Option Bool
  | some false, _ => some false
  | _, some false => some false
  | some true, some true => some true
  | _, _ => none

/-- Whether one of two conditions holds. One that is true settles it. -/
def disj : Option Bool → Option Bool → Option Bool
  | some true, _ => some true
  | _, some true => some true
  | some false, some false => some false
  | _, _ => none

/-- Whether a condition does not hold, if it is known. -/
def invert? (truth : Option Bool) : Option Bool :=
  truth.map (!·)

namespace Value

/-- A condition as a value; NULL for one that is unknown. -/
def ofTruth : Option Bool → Value
  | some b => .boolean b
  | none => .null

/-- The negation of a value as a condition. -/
def invert (v : Value) : Value :=
  ofTruth (invert? v.truth?)

/-- The negation of a value where it is asked for. -/
def invertIf (negate : Bool) (v : Value) : Value :=
  if negate then v.invert else v

end Value

end SqlFormula
