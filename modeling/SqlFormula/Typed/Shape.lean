import SqlFormula.Instant.Text
import SqlFormula.Typed.Datum

/-!
# Shapes of typed data

A shape says which typed data belongs to a type. A type that refers to itself is unfolded as often as the data
needs.

## Main definitions

- `IntegerKind` — integers of some width, with a sign or without
- `TupleKind` — tuples, and what they are called
- `Shape`, `VariantShape` — the shapes of types and of the variants of sums
- `Shape.default` — the data of a shape where nothing is given
-/

namespace SqlFormula.Typed

/-- Integers of a number of bits. -/
structure IntegerKind where
  signed : Bool
  bits : Nat
  deriving DecidableEq, Repr

namespace IntegerKind

/-- What the integers are called. -/
def name (k : IntegerKind) : String :=
  (if k.signed then "i" else "u") ++ toString k.bits

/-- Whether an integer is one of them. -/
def holds (k : IntegerKind) (i : Int) : Bool :=
  if k.signed then -(Nat.pow 2 (k.bits - 1) : Int) ≤ i && i < Nat.pow 2 (k.bits - 1)
  else 0 ≤ i && i < Nat.pow 2 k.bits

/-- The data of an integer. -/
def datum (k : IntegerKind) (i : Int64) : Datum :=
  if 64 < k.bits then .wide k.signed else .integer i

end IntegerKind

/-- Sequences of a fixed length. -/
inductive TupleKind where
  | tuple (size : Nat)
  | array (size : Nat)
  | struct (name : String) (size : Nat)
  /-- The data of a variant, called after the sum and the variant. -/
  | variant (name : String) (size : Nat)
  deriving DecidableEq, Repr

namespace TupleKind

/-- What is expected of another value. -/
def expected : TupleKind → String
  | .tuple size => s!"a tuple of size {size}"
  | .array size => s!"an array of length {size}"
  | .struct name _ => s!"tuple struct {name}"
  | .variant name _ => s!"tuple variant {name}"

/-- What is expected of a sequence that is too short. -/
def expectedLength : TupleKind → String
  | .tuple size => s!"a tuple of size {size}"
  | .array size => s!"an array of length {size}"
  | .struct name size => s!"tuple struct {name} with {size} elements"
  | .variant name size => s!"tuple variant {name} with {size} elements"

end TupleKind

mutual

/-- The shape of a type. -/
inductive Shape where
  | unit
  | boolean
  | integer (k : IntegerKind)
  | single
  | double
  | char
  | text
  | bytes
  /-- A date and time that is stored as one. -/
  | dateTime
  /-- A date and time that is stored as its text. -/
  | timestamp
  /-- Anything that JSON can say. -/
  | any
  | optional (s : Shape)
  /-- A structure with one nameless field. -/
  | wrapped (s : Shape)
  | sequence (s : Shape)
  | tuple (k : TupleKind) (items : List Shape)
  | map (key value : Shape)
  | unitStruct (name : String)
  /-- A structure. Fields that are missing have defaults, or else only optional ones may be missing; of other
  fields there may be any, or none. -/
  | struct (name : String) (defaults closed : Bool) (fields : List (String × Shape))
  | sum (name : String) (variants : List (String × VariantShape))

/-- The shape of the data of a variant. -/
inductive VariantShape where
  | unit
  | wrapped (s : Shape)
  | tuple (items : List Shape)
  | struct (fields : List (String × Shape))

end

instance : Inhabited Shape := ⟨.unit⟩

/-- A date and time as typed data. -/
def dateTimeDatum (t : Instant) : Datum :=
  .dateTime (.text t.text)

/-- A date and time as its text. -/
def timestampDatum (t : Instant) : Datum :=
  .text (t.rfc3339 "Z")

namespace Shape

mutual

/-- The data of a shape where nothing is given: zeros, nothing, empty collections, and the first variant. -/
def default : Shape → Datum
  | .unit | .any | .optional _ | .unitStruct _ => .nothing
  | .boolean => .boolean false
  | .integer k => k.datum 0
  | .single | .double => .float 0.0
  | .char => .text "\x00"
  | .text => .text ""
  | .bytes => .bytes []
  | .dateTime => dateTimeDatum .epoch
  | .timestamp => timestampDatum .epoch
  | .wrapped s => .wrapped s.default
  | .sequence _ => .sequence []
  | .tuple _ items => .sequence (defaultItems items)
  | .map _ _ => .map []
  | .struct _ _ _ fields => .struct (defaultFields fields)
  | .sum _ variants => .unitVariant ((variants.map Prod.fst).headD "")

/-- The data of some shapes where nothing is given. -/
def defaultItems : List Shape → List Datum
  | [] => []
  | s :: ss => s.default :: defaultItems ss

/-- The data of some fields where nothing is given. -/
def defaultFields : List (String × Shape) → List (String × Datum)
  | [] => []
  | (name, s) :: rest => (name, s.default) :: defaultFields rest

end

/-- Whether a field of this shape may be missing. -/
def isOptional : Shape → Bool
  | .optional _ => true
  | _ => false

end Shape

end SqlFormula.Typed
