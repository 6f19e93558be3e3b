import SqlFormula.Typed.EncodeError
import SqlFormula.Value

/-!
# Building values from containers

Objects and arrays under construction are kept side by side and refer to each other by number. So a container
can still be written to after it has been attached to another one. In the end the value is put together from
a root, and no container may be reached twice.

## Main definitions

- `Slot`, `Container` — what is attached, and to what
- `Encoder` — the containers under construction
- `Encoder.insert`, `Encoder.push` — writing to a container
- `Encoder.finish` — the value at a root
-/

namespace SqlFormula.Typed

/-- What a field or an item holds: a value, or a container by its number. -/
inductive Slot where
  | value (v : Value)
  | container (id : Nat)

/-- A container under construction. The entries of an object ascend by key. -/
inductive Container where
  | object (entries : List (String × Slot))
  | array (items : Array Slot)

/-- The containers under construction, by their numbers. -/
structure Encoder where
  containers : Array Container

namespace Encoder

/-- The encoder without containers. -/
def empty : Encoder :=
  ⟨#[]⟩

/-- Adds a container, and gives its number. -/
def allocate (c : Container) (e : Encoder) : Nat × Encoder :=
  (e.containers.size, ⟨e.containers.push c⟩)

/-- Adds an empty object. -/
def beginObject (e : Encoder) : Nat × Encoder :=
  e.allocate (.object [])

/-- Adds an empty array. -/
def beginArray (e : Encoder) : Nat × Encoder :=
  e.allocate (.array #[])

/-- Puts another container in the place of one. -/
def replace (id : Nat) (c : Container) (e : Encoder) : Encoder :=
  ⟨e.containers.setIfInBounds id c⟩

theorem containers_replace {e : Encoder} {id id' : Nat} (c : Container) (hid : id < e.containers.size) :
    (e.replace id c).containers[id']? = if id = id' then some c else e.containers[id']? := by
  simp only [replace, Array.getElem?_setIfInBounds, hid, if_true]

/-- Sets a key of an object. -/
def insert (id : Nat) (key : String) (slot : Slot) (e : Encoder) : Except EncodeError Encoder :=
  match e.containers[id]? with
  | some (.object entries) => .ok (e.replace id (.object (Entries.insert key slot entries)))
  | some (.array _) => .error (.mismatch id .object)
  | none => .error (.reused id)

/-- Adds an item at the end of an array. -/
def push (id : Nat) (slot : Slot) (e : Encoder) : Except EncodeError Encoder :=
  match e.containers[id]? with
  | some (.array items) => .ok (e.replace id (.array (items.push slot)))
  | some (.object _) => .error (.mismatch id .array)
  | none => .error (.reused id)

/-- The number of items of an array. -/
def itemCount (id : Nat) (e : Encoder) : Except EncodeError Nat :=
  match e.containers[id]? with
  | some (.array items) => .ok items.size
  | some (.object _) => .error (.mismatch id .array)
  | none => .error (.reused id)

/-- Attaches the container that was added last to an object. It remains also where that fails. -/
def attach (parent : Nat) (key : String) (added : Nat × Encoder) : Except EncodeError Nat × Encoder :=
  match added.2.insert parent key (.container added.1) with
  | .ok e => (.ok added.1, e)
  | .error error => (.error error, added.2)

/-- Adds an empty object as the value of a key of an object. -/
def nestObject (parent : Nat) (key : String) (e : Encoder) : Except EncodeError Nat × Encoder :=
  attach parent key e.beginObject

/-- Adds an empty array as the value of a key of an object. -/
def nestArray (parent : Nat) (key : String) (e : Encoder) : Except EncodeError Nat × Encoder :=
  attach parent key e.beginArray

/-! ### Putting values together -/

/-- Containers that have not been reached yet. -/
abbrev Remaining := Array (Option Container)

/-- The value of a slot, with what remains after it. -/
abbrev Resolution (α : Type) := Remaining → Except EncodeError (α × Remaining)

/-- The values of items, given how a slot becomes a value. -/
def resolveItems (resolve : Slot → Resolution Value) : List Slot → Resolution (List Value)
  | [], remaining => .ok ([], remaining)
  | slot :: slots, remaining => do
    let (v, remaining) ← resolve slot remaining
    let (vs, remaining) ← resolveItems resolve slots remaining
    return (v :: vs, remaining)

/-- The values of entries, given how a slot becomes a value. -/
def resolveEntries (resolve : Slot → Resolution Value) :
    List (String × Slot) → Resolution (List (String × Value))
  | [], remaining => .ok ([], remaining)
  | (key, slot) :: rest, remaining => do
    let (v, remaining) ← resolve slot remaining
    let (entries, remaining) ← resolveEntries resolve rest remaining
    return ((key, v) :: entries, remaining)

/-- The value of a container, given how a slot becomes a value. -/
def resolveContainer (resolve : Slot → Resolution Value) : Container → Resolution Value
  | .object entries, remaining => do
    let (entries, remaining) ← resolveEntries resolve entries remaining
    return (.object entries, remaining)
  | .array items, remaining => do
    let (vs, remaining) ← resolveItems resolve items.toList remaining
    return (.array vs, remaining)

/-- The value of a slot, below which containers nest less than `level` deep. Every container is reached at most
once, so there are never more levels than containers. -/
def resolve : Nat → Slot → Resolution Value
  | _, .value v, remaining => .ok (v, remaining)
  | 0, .container id, _ => .error (.reused id)
  | level + 1, .container id, remaining =>
    match remaining[id]? with
    | some (some c) => resolveContainer (resolve level) c (remaining.setIfInBounds id none)
    | _ => .error (.reused id)

/-- The value at a root. -/
def finish (root : Slot) (e : Encoder) : Except EncodeError Value :=
  (resolve e.containers.size root (e.containers.map some)).map Prod.fst

end Encoder

end SqlFormula.Typed
