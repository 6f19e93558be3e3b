import SqlFormula.Eval.Error
import SqlFormula.Instant.Read
import SqlFormula.Syntax.Operator
import SqlFormula.Value.Number
import SqlFormula.Value.Text

/-!
# Comparing values

Two values are compared after bringing them to a common type: a text is read as a number, a boolean or
an instant where the other side is one. Values without a common type are ordered by their classes, or
not at all where an operator demands an order.

## Main definitions

- `compareText` — texts under a collation
- `Value.coercedOrdering?` — the order after bringing two values to a common type
- `Value.compareWith` — the order of any two values
- `Value.orderFor` — the order that an operator demands
- `Value.equals` — equality without reading texts
-/

namespace SqlFormula

/-- The order of texts under a collation. -/
def compareText (c : Collation) (a b : String) : Ordering :=
  match c with
  | .binary => compare a b
  | .noCase => compare (Text.asciiLower a) (Text.asciiLower b)
  | .rTrim =>
    compare (String.ofList (Text.dropEndWhile (· == ' ') a.toList))
      (String.ofList (Text.dropEndWhile (· == ' ') b.toList))

/-- The order of bytes, the first difference deciding. -/
def compareBytes (a b : List UInt8) : Ordering :=
  List.compareLex compare a b

/-- The order of doubles; a NaN is taken as equal to everything. -/
def compareFloats (x y : Float) : Ordering :=
  if x < y then .lt else if y < x then .gt else .eq

/-- The order of booleans: false comes before true. -/
def compareBooleans (a b : Bool) : Ordering :=
  match a, b with
  | false, true => .lt
  | true, false => .gt
  | _, _ => .eq

namespace Value

/-- The order of two numbers: exact for integers, else as doubles. -/
def compareNumbers : Value → Value → Ordering
  | .integer i, .integer j => compare i j
  | v, w => compareFloats (v.asFloat?.getD 0.0) (w.asFloat?.getD 0.0)

/-- The order of a number and a text that is read as one. -/
def compareNumberText? (v : Value) (s : String) : Option Ordering :=
  (parseNumber? s).map (compareNumbers v)

/-- The order of an instant and a text: as instants if the text is one, else as texts. -/
def compareInstantText (c : Collation) (t : Instant) (s : String) : Ordering :=
  match readDateTime? s with
  | some u => t.compare u
  | none => compareText c t.display s

/-- The order of an instant and a number of seconds. -/
def compareInstantNumber (t : Instant) (v : Value) : Ordering :=
  compareNumbers (.integer (Int64.ofInt t.seconds)) v

/-- The order of two values without parts after bringing them to a common type. -/
def scalarOrdering? (c : Collation) : Value → Value → Option Ordering
  | .null, .null => some .eq
  | .null, _ => some .lt
  | _, .null => some .gt
  | .text a, .text b => some (compareText c a b)
  | .blob a, .blob b => some (compareBytes a b)
  | .text a, .blob b => some (compareBytes (Text.bytesOf a) b)
  | .blob a, .text b => some (compareBytes a (Text.bytesOf b))
  | .dateTime t, .dateTime u => some (t.compare u)
  | .boolean a, .boolean b => some (compareBooleans a b)
  | .boolean a, .text s => (textBoolean? s).map (compareBooleans a)
  | .text s, .boolean b => (textBoolean? s).map (compareBooleans · b)
  | .boolean a, .integer j => some (compareNumbers (ofBit a) (.integer j))
  | .boolean a, .float y => some (compareNumbers (ofBit a) (.float y))
  | .integer i, .boolean b => some (compareNumbers (.integer i) (ofBit b))
  | .float x, .boolean b => some (compareNumbers (.float x) (ofBit b))
  | .integer i, .integer j => some (compareNumbers (.integer i) (.integer j))
  | .integer i, .float y => some (compareNumbers (.integer i) (.float y))
  | .float x, .integer j => some (compareNumbers (.float x) (.integer j))
  | .float x, .float y => some (compareNumbers (.float x) (.float y))
  | .integer i, .text s => compareNumberText? (.integer i) s
  | .float x, .text s => compareNumberText? (.float x) s
  | .text s, .integer j => (compareNumberText? (.integer j) s).map Ordering.swap
  | .text s, .float y => (compareNumberText? (.float y) s).map Ordering.swap
  | .dateTime t, .text s => some (compareInstantText c t s)
  | .text s, .dateTime t => some (compareInstantText c t s).swap
  | .dateTime t, .integer j => some (compareInstantNumber t (.integer j))
  | .dateTime t, .float y => some (compareInstantNumber t (.float y))
  | .integer i, .dateTime t => some (compareInstantNumber t (.integer i)).swap
  | .float x, .dateTime t => some (compareInstantNumber t (.float x)).swap
  | _, _ => none

/-- The place of a value's class in the order of classes. -/
def classRank : Value → Nat
  | .null => 0
  | .boolean _ | .integer _ | .float _ => 1
  | .text _ => 2
  | .blob _ => 3
  | .dateTime _ => 4
  | .array _ => 5
  | .object _ => 6

/-- The order of two values by their classes, unless another one is known. -/
def orByClass (known : Option Ordering) (v w : Value) : Ordering :=
  known.getD (compare v.classRank w.classRank)

mutual

/-- The order of two values after bringing them to a common type; nothing if there is none. -/
def coercedOrdering? (c : Collation) : Value → Value → Option Ordering
  | .array a, .array b => some (compareItems c a b)
  | .object a, .object b => some (compareEntries c a b)
  | v, w => scalarOrdering? c v w

/-- The order of arrays: the first different items decide, or else the lengths. -/
def compareItems (c : Collation) : List Value → List Value → Ordering
  | [], [] => .eq
  | [], _ :: _ => .lt
  | _ :: _, [] => .gt
  | v :: vs, w :: ws => (orByClass (coercedOrdering? c v w) v w).then (compareItems c vs ws)

/-- The order of objects: the first different keys or values decide, or else the numbers of entries. -/
def compareEntries (c : Collation) : List (String × Value) → List (String × Value) → Ordering
  | [], [] => .eq
  | [], _ :: _ => .lt
  | _ :: _, [] => .gt
  | (k, v) :: vs, (l, w) :: ws =>
    ((compare k l).then (orByClass (coercedOrdering? c v w) v w)).then (compareEntries c vs ws)

end

/-- The order of any two values: those without a common type are ordered by their classes, which ascend from
NULL over numbers, texts, blobs, instants and arrays to objects. -/
def compareWith (c : Collation) (v w : Value) : Ordering :=
  orByClass (coercedOrdering? c v w) v w

/-- The order of two values for an operator, which demands a common type. -/
def orderFor (operator : String) (c : Collation) (v w : Value) : Except EvalError Ordering :=
  match coercedOrdering? c v w with
  | some o => .ok o
  | none => .error (.typeMismatch operator v.typeName w.typeName)

/-- Whether two values without parts are equal; numbers are equal if their values are. -/
def scalarEquals : Value → Value → Bool
  | .integer i, .integer j => i == j
  | .integer i, .float y => compareNumbers (.integer i) (.float y) == .eq
  | .float x, .integer j => compareNumbers (.float x) (.integer j) == .eq
  | .float x, .float y => compareNumbers (.float x) (.float y) == .eq
  | .null, .null => true
  | .boolean a, .boolean b => a == b
  | .text a, .text b => a == b
  | .blob a, .blob b => a == b
  | .dateTime t, .dateTime u => t == u
  | _, _ => false

mutual

/-- Whether two values are equal. Texts equal nothing but texts; integers and floats are equal if their values
are. -/
def equals : Value → Value → Bool
  | .array a, .array b => equalItems a b
  | .object a, .object b => equalEntries a b
  | v, w => scalarEquals v w

/-- Whether items are equal one by one. -/
def equalItems : List Value → List Value → Bool
  | [], [] => true
  | v :: vs, w :: ws => equals v w && equalItems vs ws
  | _, _ => false

/-- Whether entries are equal one by one. -/
def equalEntries : List (String × Value) → List (String × Value) → Bool
  | [], [] => true
  | (k, v) :: vs, (l, w) :: ws => k == l && equals v w && equalEntries vs ws
  | _, _ => false

end

end Value

end SqlFormula
