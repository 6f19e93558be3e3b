import SqlFormula.Instant.Text
import SqlFormula.Typed.Datum
import SqlFormula.Typed.Encoder

/-!
# Storing typed data

Structures and maps become objects, sequences become arrays, and variants become texts or objects with one
entry. Containers are added to an encoder in the order in which the data is met, outer ones first.

## Main definitions

- `Building` — steps that change an encoder, and that may fail
- `Datum.build` — the slot of typed data in an encoder
- `Datum.toValue` — the value of typed data
-/

namespace SqlFormula.Typed

/-- A step that changes an encoder. What it has changed stays so when it fails. -/
abbrev Building := ExceptT EncodeError (StateM Encoder)

namespace Building

/-- A step that adds a container. -/
def add (step : Encoder → Nat × Encoder) : Building Nat :=
  fun e => (.ok (step e).1, (step e).2)

/-- A step that adds an attached container. -/
def nest (step : Encoder → Except EncodeError Nat × Encoder) : Building Nat :=
  step

/-- A step that looks at a container. -/
def read {α : Type} (step : Encoder → Except EncodeError α) : Building α :=
  fun e => (step e, e)

/-- A step that writes to a container. -/
def write (step : Encoder → Except EncodeError Encoder) : Building Unit := fun e =>
  match step e with
  | .ok e => (.ok (), e)
  | .error error => (.error error, e)

end Building

/-- The slot of an unsigned integer. -/
def unsignedSlot (n : UInt64) (path : List Segment) : Except EncodeError Slot :=
  match Number.int64? n.toNat with
  | some i => .ok (.value (.integer i))
  | none => .error (.unsupported .largeUnsigned path)

/-- The slot of a date and time, given that of its text. -/
def dateTimeSlot (path : List Segment) : Slot → Except EncodeError Slot
  | .value (.text s) =>
    match Instant.ofText? s with
    | some t => .ok (.value (.dateTime t))
    | none => .error (.invalidDateTime s)
  | _ => .error (.unsupported .dateTime path)

/-- The key of a map, given its slot. -/
def keyOf (path : List Segment) : Slot → Except EncodeError String
  | .value (.text s) => .ok s
  | _ => .error (.unsupported .key path)

namespace Datum

mutual

/-- Adds the containers of typed data that stands at a path, and gives its slot. -/
def build (path : List Segment) : Datum → Building Slot
  | .nothing => pure (.value .null)
  | .boolean b => pure (.value (.boolean b))
  | .integer i => pure (.value (.integer i))
  | .unsigned n => liftM (unsignedSlot n path)
  | .wide signed => throw (.unsupported (.wide signed) path)
  | .float x => pure (.value (.float x))
  | .text s => pure (.value (.text s))
  | .bytes bs => pure (.value (.blob bs))
  | .wrapped d => d.build path
  | .dateTime d => do liftM (dateTimeSlot path (← d.build path))
  | .sequence items => do
    let id ← Building.add Encoder.beginArray
    buildItems id path items
    return .container id
  | .mapping parts => do
    let id ← Building.add Encoder.beginObject
    buildParts id path none parts
    return .container id
  | .struct fields => do
    let id ← Building.add Encoder.beginObject
    buildFields id path fields
    return .container id
  | .unitVariant name => pure (.value (.text name))
  | .wrappedVariant name d => do
    let slot ← d.build (path ++ [.field name])
    let id ← Building.add Encoder.beginObject
    Building.write (Encoder.insert id name slot)
    return .container id
  | .tupleVariant name items => do
    let outer ← Building.add Encoder.beginObject
    let id ← Building.nest (Encoder.nestArray outer name)
    buildItems id (path ++ [.field name]) items
    return .container outer
  | .structVariant name fields => do
    let outer ← Building.add Encoder.beginObject
    let id ← Building.nest (Encoder.nestObject outer name)
    buildFields id (path ++ [.field name]) fields
    return .container outer
  | .failing message => throw (.reported message)

/-- Adds items to an array. The path of an item counts those before it. -/
def buildItems (id : Nat) (path : List Segment) : List Datum → Building Unit
  | [] => pure ()
  | d :: ds => do
    let index ← Building.read (Encoder.itemCount id)
    let slot ← d.build (path ++ [.item index])
    Building.write (Encoder.push id slot)
    buildItems id path ds

/-- Adds what is handed over for a map to an object, with the key of the next value. -/
def buildParts (id : Nat) (path : List Segment) (pending : Option String) : List MapPart → Building Unit
  | [] => pure ()
  | .key d :: rest => do
    let key ← liftM (keyOf path (← d.build path))
    buildParts id path (some key) rest
  | .value d :: rest =>
    match pending with
    | some key => do
      let slot ← d.build (path ++ [.field key])
      Building.write (Encoder.insert id key slot)
      buildParts id path none rest
    | none => throw .missingKey

/-- Adds the fields of a structure to an object. -/
def buildFields (id : Nat) (path : List Segment) : List (String × Datum) → Building Unit
  | [] => pure ()
  | (key, d) :: rest => do
    let slot ← d.build (path ++ [.field key])
    Building.write (Encoder.insert id key slot)
    buildFields id path rest

end

/-- The value of typed data. -/
def toValue (d : Datum) : Except EncodeError Value :=
  match (d.build []).run Encoder.empty with
  | (.ok root, e) => e.finish root
  | (.error error, _) => .error error

end Datum

end SqlFormula.Typed
