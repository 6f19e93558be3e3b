/-!
# Typed data

What a program hands over to be stored as a value: scalars of the usual widths, options, sequences, maps,
structures, and the variants of sums. A path leads from typed data, or from a value, to one of its parts.

## Main definitions

- `Datum`, `MapPart` — typed data, and what it hands over for a map
- `Datum.map` — a map of keys to values
- `Segment` — one step of a path
- `pathText` — a path as it is shown
-/

namespace SqlFormula.Typed

mutual

/-- Typed data. -/
inductive Datum where
  /-- Nothing: an absent option, or a type with one value. -/
  | nothing
  | boolean (b : Bool)
  /-- An integer of a type that 64 bits with a sign hold. -/
  | integer (i : Int64)
  /-- An integer of 64 bits without a sign. -/
  | unsigned (n : UInt64)
  /-- An integer of 128 bits, with or without a sign. -/
  | wide (signed : Bool)
  | float (x : Float)
  | text (s : String)
  | bytes (bs : List UInt8)
  /-- What a present option or a structure with one nameless field holds. -/
  | wrapped (d : Datum)
  /-- A date and time, which stands behind a mark, as its text. -/
  | dateTime (d : Datum)
  /-- A sequence, an array or a tuple. -/
  | sequence (items : List Datum)
  /-- A map, whose keys and values are handed over one by one. -/
  | mapping (parts : List MapPart)
  | struct (fields : List (String × Datum))
  /-- A variant without data. -/
  | unitVariant (name : String)
  /-- A variant with one nameless field. -/
  | wrappedVariant (name : String) (d : Datum)
  | tupleVariant (name : String) (items : List Datum)
  | structVariant (name : String) (fields : List (String × Datum))
  /-- Data that reports an error of its own. -/
  | failing (message : String)

/-- What is handed over for a map. A value belongs to the key right before it. -/
inductive MapPart where
  | key (d : Datum)
  | value (d : Datum)

end

instance : Inhabited Datum := ⟨.nothing⟩

namespace Datum

/-- A map of keys to values. -/
def map (entries : List (Datum × Datum)) : Datum :=
  .mapping (entries.flatMap fun (k, d) => [.key k, .value d])

/-- A value that is handed over as one of a map, but without a key. -/
def keyless (d : Datum) : Datum :=
  .mapping [.value d]

end Datum

/-! ### Paths -/

/-- A step to a part. -/
inductive Segment where
  /-- To the value of a field, an entry or a variant. -/
  | field (name : String)
  /-- To an item, counted from 0. -/
  | item (index : Nat)
  deriving DecidableEq, Repr

/-- A step as it is shown. -/
def Segment.text : Segment → String
  | .field name => "." ++ name
  | .item index => s!"[{index}]"

/-- A path as it is shown: its steps from the outermost one on. -/
def pathText (path : List Segment) : String :=
  String.join (path.map Segment.text)

end SqlFormula.Typed
