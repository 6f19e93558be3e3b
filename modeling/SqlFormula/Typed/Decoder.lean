import SqlFormula.Text.Bytes
import SqlFormula.Typed.DecodeError
import SqlFormula.Typed.Shape

/-!
# Decoders

A decoder takes a value as typed data. Scalars are taken at their kind, except that integers also make floats, and
a date and time is offered as its text. An error tells which part of the value it is about.

## Main definitions

- `Decoder`
- `Decoder.items`, `Decoder.map`, `Decoder.struct`, `Decoder.sum` — decoders made of others
- `Decoder.ignore` — passing over what is not needed
-/

namespace SqlFormula.Typed

/-- Takes values as typed data. -/
abbrev Decoder := Value → Except DecodeError Datum

/-- The error of a value where something else is expected. -/
def mismatch {α : Type} (expected : String) (v : Value) : Except DecodeError α :=
  .error (.mismatch [] expected (Found.ofValue v))

/-- The error of a value of the right kind. -/
def invalid {α : Type} (fault : Invalidity) : Except DecodeError α :=
  .error (.invalid [] fault)

/-- The result for a part, as one for the whole. -/
def under {α : Type} (step : Segment) (r : Except DecodeError α) : Except DecodeError α :=
  r.mapError (DecodeError.under step)

namespace Decoder

/-! ### Scalars -/

/-- A value as it is offered to scalars: a date and time as its text. -/
def offered : Value → Value
  | .dateTime t => .text t.text
  | v => v

/-- Takes NULL. -/
def null (expected : String) : Decoder
  | .null => .ok .nothing
  | v => mismatch expected v

/-- Takes booleans. -/
def boolean : Decoder := fun v =>
  match offered v with
  | .boolean b => .ok (.boolean b)
  | w => mismatch "a boolean" w

/-- Takes integers of a width. -/
def integer (k : IntegerKind) : Decoder := fun v =>
  match offered v with
  | .integer i => if k.holds i.toInt then .ok (k.datum i) else mismatch k.name v
  | w => mismatch k.name w

/-- Takes integers and floats as doubles. -/
def double : Decoder := fun v =>
  match offered v with
  | .integer i => .ok (.float (Number.ofInt64 i))
  | .float x => .ok (.float x)
  | w => mismatch "f64" w

/-- The single nearest to an integer, as a double. -/
def singleOfInteger (i : Int) : Float :=
  Number.nearest Number.single (i < 0) i.natAbs 1

/-- Takes integers and floats as singles. -/
def single : Decoder := fun v =>
  match offered v with
  | .integer i => .ok (.float (singleOfInteger i.toInt))
  | .float x => .ok (.float (Number.toSingle x))
  | w => mismatch "f32" w

/-- Takes texts of one character. -/
def char : Decoder := fun v =>
  match offered v with
  | .text s => if s.length = 1 then .ok (.text s) else mismatch "a character" (.text s)
  | w => mismatch "a character" w

/-- A text, or bytes that are one. -/
def textOf (v : Value) : Except DecodeError String :=
  match offered v with
  | .text s => .ok s
  | .blob bs =>
    match Text.ofBytes? bs with
    | some s => .ok s
    | none => mismatch "a string" v
  | w => mismatch "a string" w

/-- Takes texts. -/
def text : Decoder := fun v => do
  return .text (← textOf v)

/-- Takes dates and times, and texts of them. -/
def dateTime : Decoder := fun v => do
  let s ← textOf v
  match Instant.ofText? s with
  | some t => return dateTimeDatum t
  | none => invalid (.dateTime s)

/-- What is expected of a date and time that is stored as its text. -/
def timestampText : String := "an RFC 3339 formatted date and time string"

/-- Takes texts of dates and times. -/
def timestamp : Decoder := fun v =>
  match offered v with
  | .text s =>
    match readRelaxed s with
    | .ok t => .ok (timestampDatum t)
    | .error fault => invalid (.timestamp fault)
  | w => mismatch timestampText w

/-! ### Collections -/

/-- The results for items, of which the first is number `index`. -/
def items {α : Type} (item : Value → Except DecodeError α) (index : Nat) :
    List Value → Except DecodeError (List α)
  | [] => .ok []
  | v :: vs => do
    let d ← under (.item index) (item v)
    return d :: (← items item (index + 1) vs)

/-- Bytes as integers. -/
def ofBytes (bs : List UInt8) : List Value :=
  bs.map fun b => .integer (Int64.ofInt b.toNat)

/-- The items of an array, or the bytes of a blob. -/
def itemsOf (expected : String) : Value → Except DecodeError (List Value)
  | .array vs => .ok vs
  | .blob bs => .ok (ofBytes bs)
  | v => mismatch expected v

/-- Takes sequences of any length. -/
def sequence (item : Decoder) : Decoder := fun v => do
  return .sequence (← items item 0 (← itemsOf "a sequence" v))

/-- A byte. -/
def byte (v : Value) : Except DecodeError UInt8 :=
  let k : IntegerKind := ⟨false, 8⟩
  match offered v with
  | .integer i => if k.holds i.toInt then .ok (UInt8.ofNat i.toInt.toNat) else mismatch k.name v
  | w => mismatch k.name w

/-- Takes blobs, the bytes of texts, and arrays of bytes. -/
def bytes : Decoder := fun v =>
  match offered v with
  | .blob bs => .ok (.bytes bs)
  | .text s => .ok (.bytes (Text.bytesOf s))
  | .array vs => do return .bytes (← items byte 0 vs)
  | w => mismatch "byte array" w

/-- The results of decoders for items, of which the first is number `index`, and the items that are left. -/
def zipItems (k : TupleKind) (index : Nat) :
    List Decoder → List Value → Except DecodeError (List Datum × List Value)
  | [], vs => .ok ([], vs)
  | _ :: _, [] => invalid (.length index k.expectedLength)
  | d :: ds, v :: vs => do
    let datum ← under (.item index) (d v)
    let (data, rest) ← zipItems k (index + 1) ds vs
    return (datum :: data, rest)

/-- The results of decoders for as many items. -/
def fixedItems (k : TupleKind) (ds : List Decoder) (vs : List Value) : Except DecodeError (List Datum) := do
  let (data, rest) ← zipItems k 0 ds vs
  if rest.isEmpty then return data else invalid (.length vs.length "fewer elements in sequence")

/-- Takes sequences of a fixed length. -/
def tuple (k : TupleKind) (ds : List Decoder) : Decoder := fun v => do
  return .sequence (← fixedItems k ds (← itemsOf k.expected v))

/-- The entries of a map. -/
def entries (key value : Decoder) : List (String × Value) → Except DecodeError (List (Datum × Datum))
  | [] => .ok []
  | (name, v) :: rest => do
    let k ← key (.text name)
    let d ← under (.field name) (value v)
    return (k, d) :: (← entries key value rest)

/-- Takes objects as maps. -/
def map (key value : Decoder) : Decoder := fun v =>
  match offered v with
  | .object es => do return .map (← entries key value es)
  | w => mismatch "a map" w

/-! ### Structures -/

/-- How a field is taken, and what it is when it is missing. -/
structure Field where
  name : String
  decode : Decoder
  absent : Except DecodeError Datum

mutual

/-- Passes over a value of which nothing is expected, and over all its parts. -/
def ignore : Value → Except DecodeError Unit
  | .array vs => do
    let rest ← ignoreItems 0 vs
    if rest.isEmpty then return () else invalid (.length vs.length "fewer elements in sequence")
  | .object es => ignoreEntries es
  | _ => .ok ()

/-- Passes over items, of which the first is number `index`, and gives those that are left. -/
def ignoreItems (index : Nat) : List Value → Except DecodeError (List Value)
  | [] => .ok []
  | v :: vs => do
    under (.item index) (ignore v)
    ignoreItems (index + 1) vs

/-- Passes over entries. -/
def ignoreEntries : List (String × Value) → Except DecodeError Unit
  | [] => .ok ()
  | (name, v) :: rest => do
    under (.field name) (ignore v)
    ignoreEntries rest

end

/-- The fields of a structure among the entries of an object. Other entries are passed over, or refused. -/
def knownEntries (closed : Bool) (fields : List Field) :
    List (String × Value) → Except DecodeError (List (String × Datum))
  | [] => .ok []
  | (name, v) :: rest =>
    match fields.find? fun f => f.name == name with
    | some f => do
      let d ← under (.field name) (f.decode v)
      return (name, d) :: (← knownEntries closed fields rest)
    | none =>
      if closed then invalid (.unknownField name (fields.map Field.name))
      else do
        under (.field name) (ignore v)
        knownEntries closed fields rest

/-- The data of fields, in their order: what was found, or what stands for a missing field. -/
def complete (found : List (String × Datum)) : List Field → Except DecodeError (List (String × Datum))
  | [] => .ok []
  | f :: fs => do
    let d ← match found.lookup f.name with
      | some d => .ok d
      | none => f.absent
    return (f.name, d) :: (← complete found fs)

/-- The fields of a structure from the entries of an object. -/
def fields (closed : Bool) (fs : List Field) (es : List (String × Value)) :
    Except DecodeError (List (String × Datum)) := do
  complete (← knownEntries closed fs es) fs

/-- Takes objects as structures; NULL is an empty object. -/
def struct (name : String) (closed : Bool) (fs : List Field) : Decoder
  | .object es => do return .struct (← fields closed fs es)
  | .null => do return .struct (← fields closed fs [])
  | v => mismatch ("struct " ++ name) v

/-! ### Sums -/

/-- A decoder for what may come with the name of a variant. -/
abbrev VariantDecoder := Option Value → Except DecodeError Datum

/-- The error of a variant with other data than is expected, or without. -/
def variantMismatch (expected : String) : Option Value → Except DecodeError Datum
  | some v => mismatch expected v
  | none => .error (.mismatch [] expected .variant)

/-- A variant without data. -/
def unitVariant (name : String) : VariantDecoder
  | none | some .null => .ok (.unitVariant name)
  | v? => variantMismatch "unit variant" v?

/-- A variant with one nameless field. -/
def wrappedVariant (name : String) (d : Decoder) : VariantDecoder
  | some v => do return .wrappedVariant name (← under (.field name) (d v))
  | none => variantMismatch "newtype variant" none

/-- A variant with some nameless fields. -/
def tupleVariant (sum name : String) (ds : List Decoder) : VariantDecoder
  | some (.array vs) => do
    let k : TupleKind := .variant (sum ++ "::" ++ name) ds.length
    return .tupleVariant name (← under (.field name) (fixedItems k ds vs))
  | v? => variantMismatch "tuple variant" v?

/-- A variant with fields. -/
def structVariant (name : String) (fs : List Field) : VariantDecoder
  | some (.object es) => do return .structVariant name (← under (.field name) (fields false fs es))
  | v? => variantMismatch "struct variant" v?

/-- Takes the data that comes with the name of a variant. -/
def variant (variants : List (String × VariantDecoder)) (name : String) : VariantDecoder := fun v? =>
  match variants.lookup name with
  | some d => d v?
  | none => invalid (.unknownVariant name (variants.map Prod.fst))

/-- Takes variants: a text, or an object with one entry. -/
def sum (variants : List (String × VariantDecoder)) : Decoder
  | .text name => variant variants name none
  | .object [(name, v)] => variant variants name (some v)
  | v => mismatch "enum variant" v

/-! ### Anything -/

/-- What is expected where anything is taken. -/
def anyText : String := "any valid JSON value"

mutual

/-- Takes what JSON can say. Floats that are not finite become nothing. -/
def any : Value → Except DecodeError Datum
  | .null => .ok .nothing
  | .boolean b => .ok (.boolean b)
  | .integer i => .ok (.integer i)
  | .float x => .ok (if Number.isFinite x then .float x else .nothing)
  | .text s => .ok (.text s)
  | .blob bs => mismatch anyText (.blob bs)
  | .dateTime t => .ok (.text t.text)
  | .array vs => do return .sequence (← anyItems 0 vs)
  | .object es => do return .map (← anyEntries es)

/-- The items of a sequence of anything, of which the first is number `index`. -/
def anyItems (index : Nat) : List Value → Except DecodeError (List Datum)
  | [] => .ok []
  | v :: vs => do
    let d ← under (.item index) (any v)
    return d :: (← anyItems (index + 1) vs)

/-- The entries of a map of anything. -/
def anyEntries : List (String × Value) → Except DecodeError (List (Datum × Datum))
  | [] => .ok []
  | (name, v) :: rest => do
    let d ← under (.field name) (any v)
    return (.text name, d) :: (← anyEntries rest)

end

end Decoder

end SqlFormula.Typed
