import SqlFormula.Typed.Decoder

/-!
# Taking values as typed data

## Main definitions

- `Shape.decode` — the data of a shape that a value stands for
- `Shape.decodeOrDefault` — the same, where NULL stands for the default
-/

namespace SqlFormula.Typed.Shape

/-- What a missing field of a structure is. -/
def absent (name : String) (defaults : Bool) (s : Shape) : Except DecodeError Datum :=
  if defaults then .ok s.default
  else if s.isOptional then .ok .nothing
  else invalid (.missingField name)

mutual

/-- The data of a shape that a value stands for. -/
def decode : Shape → Decoder
  | .unit => Decoder.null "unit"
  | .boolean => Decoder.boolean
  | .integer k => Decoder.integer k
  | .single => Decoder.single
  | .double => Decoder.double
  | .char => Decoder.char
  | .text => Decoder.text
  | .bytes => Decoder.bytes
  | .dateTime => Decoder.dateTime
  | .timestamp => Decoder.timestamp
  | .any => Decoder.any
  | .optional s => fun v => if v.isNull then .ok .nothing else (s.decode v).map .wrapped
  | .wrapped s => fun v => (s.decode v).map .wrapped
  | .sequence s => Decoder.sequence s.decode
  | .tuple k items => Decoder.tuple k (itemDecoders items)
  | .map key value => Decoder.map key.decode value.decode
  | .unitStruct name => Decoder.null ("unit struct " ++ name)
  | .struct name defaults closed fields => Decoder.struct name closed (fieldDecoders defaults fields)
  | .sum name variants => Decoder.sum (variantDecoders name variants)

/-- The decoders of the items of a tuple. -/
def itemDecoders : List Shape → List Decoder
  | [] => []
  | s :: ss => s.decode :: itemDecoders ss

/-- The decoders of the fields of a structure. -/
def fieldDecoders (defaults : Bool) : List (String × Shape) → List Decoder.Field
  | [] => []
  | (name, s) :: rest => ⟨name, s.decode, absent name defaults s⟩ :: fieldDecoders defaults rest

/-- The decoder of what comes with the name of a variant. -/
def variantDecoder (sum name : String) : VariantShape → Decoder.VariantDecoder
  | .unit => Decoder.unitVariant name
  | .wrapped s => Decoder.wrappedVariant name s.decode
  | .tuple items => Decoder.tupleVariant sum name (itemDecoders items)
  | .struct fields => Decoder.structVariant name (fieldDecoders false fields)

/-- The decoders of the variants of a sum. -/
def variantDecoders (sum : String) : List (String × VariantShape) → List (String × Decoder.VariantDecoder)
  | [] => []
  | (name, s) :: rest => (name, variantDecoder sum name s) :: variantDecoders sum rest

end

/-- The data of a shape that a value stands for; NULL stands for the default. -/
def decodeOrDefault (s : Shape) (v : Value) : Except DecodeError Datum :=
  if v.isNull then .ok s.default else s.decode v

end SqlFormula.Typed.Shape
