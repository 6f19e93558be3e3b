import Mathlib
import SqlFormula.Proofs.Entries
import SqlFormula.Proofs.Typed.Assembly

/-!
# Containers after a history of operations

An encoder is used through six operations, in any order and with any numbers. Those that fail leave the containers
as they are, up to a container that could not be attached. What a container holds in the end can be read off the
operations: an object holds for each key the slot that was set last, an array the slots in the order in which they
were added.

## Main definitions

- `Operation` — an operation on an encoder
- `Operation.kinds`, `Operation.fields`, `Operation.items` — what it adds, and what it writes to a container
- `Encoder.run` — the encoder after a list of operations
- `Encoder.Records` — the contents of the containers are what the operations have written

## Main statements

- `Encoder.records_run` — so they are after every list of operations
- `Encoder.finish_run` — what is put together after every list of operations
-/

namespace SqlFormula.Typed

/-- The container without contents. -/
def Container.new : ContainerKind → Container
  | .object => .object []
  | .array => .array #[]

def Container.kind : Container → ContainerKind
  | .object _ => .object
  | .array _ => .array

/-- A container after fields and items have been written, of which it takes those that its kind has. -/
def Container.write (fields : List (String × Slot)) (items : List Slot) : Container → Container
  | .object entries => .object (fields.foldl (fun sorted (key, slot) => Entries.insert key slot sorted) entries)
  | .array old => .array (old ++ items.toArray)

/-- An operation on an encoder. -/
inductive Operation where
  | beginObject
  | beginArray
  | nestObject (parent : Nat) (key : String)
  | nestArray (parent : Nat) (key : String)
  | insert (id : Nat) (key : String) (slot : Slot)
  | push (id : Nat) (slot : Slot)

namespace Operation

/-- The encoder after an operation, whether it fails or not. -/
def apply : Operation → Encoder → Encoder
  | .beginObject, e => e.beginObject.2
  | .beginArray, e => e.beginArray.2
  | .nestObject parent key, e => (e.nestObject parent key).2
  | .nestArray parent key, e => (e.nestArray parent key).2
  | .insert id key slot, e => (e.insert id key slot).toOption.getD e
  | .push id slot, e => (e.push id slot).toOption.getD e

/-- The containers that an operation adds. -/
def kinds : Operation → List ContainerKind
  | .beginObject | .nestObject .. => [.object]
  | .beginArray | .nestArray .. => [.array]
  | .insert .. | .push .. => []

/-- The fields that an operation sets in a container, if there are `count` containers before. A container is there
for its own attachment already. -/
def fields (id count : Nat) : Operation → List (String × Slot)
  | .nestObject parent key | .nestArray parent key =>
    if parent = id ∧ id < count + 1 then [(key, .container count)] else []
  | .insert id' key slot => if id' = id ∧ id < count then [(key, slot)] else []
  | .beginObject | .beginArray | .push .. => []

/-- The items that an operation adds to a container, if there are `count` containers before. -/
def items (id count : Nat) : Operation → List Slot
  | .push id' slot => if id' = id ∧ id < count then [slot] else []
  | .beginObject | .beginArray | .nestObject .. | .nestArray .. | .insert .. => []

/-- What is written by operations one after the other, if there are `count` containers before the first. -/
def history {α : Type} (written : Nat → Operation → List α) : Nat → List Operation → List α
  | _, [] => []
  | count, op :: ops => written count op ++ history written (count + op.kinds.length) ops

end Operation

namespace Encoder

def runFrom (e : Encoder) (ops : List Operation) : Encoder :=
  ops.foldl (fun e op => op.apply e) e

/-- A new encoder after operations one after the other. -/
def run (ops : List Operation) : Encoder :=
  runFrom empty ops

/-- The encoder with further containers, all empty. -/
def extend (kinds : List ContainerKind) (e : Encoder) : Encoder :=
  ⟨e.containers ++ (kinds.map Container.new).toArray⟩

/-- The containers are those that operations have added, with what the operations have written to them. -/
structure Records (ops : List Operation) (e : Encoder) : Prop where
  kinds : e.containers.toList.map Container.kind = ops.flatMap Operation.kinds
  sorted : ∀ (id : Nat) entries, e.containers[id]? = some (Container.object entries) → Entries.Sorted entries
  /-- Of the fields with one key the last counts. -/
  fields : ∀ (id : Nat) entries, e.containers[id]? = some (Container.object entries) → ∀ key,
    Entries.find? key entries = Entries.find? key (Operation.history (Operation.fields id) 0 ops).reverse
  items : ∀ (id : Nat) items, e.containers[id]? = some (Container.array items) →
    items.toList = Operation.history (Operation.items id) 0 ops

/-! ### One operation -/

section

variable {e : Encoder} {id : Nat}

theorem write_nil (c : Container) : c.write [] [] = c := by
  cases c with
  | object entries => rfl
  | array items => rw [Container.write, List.toArray, Array.append_empty]

theorem write_write (c : Container) (fields fields' : List (String × Slot)) (items items' : List Slot) :
    (c.write fields items).write fields' items' = c.write (fields ++ fields') (items ++ items') := by
  cases c with
  | object entries => simp only [Container.write, List.foldl_append]
  | array old => simp only [Container.write, Array.append_assoc, List.append_toArray]

theorem kind_write (c : Container) (fields : List (String × Slot)) (items : List Slot) :
    (c.write fields items).kind = c.kind := by
  cases c with
  | object entries => rfl
  | array old => rfl

theorem map_write_nil (c? : Option Container) : c?.map (Container.write [] []) = c? := by
  rw [Option.map_congr fun c _ => write_nil c, Option.map_id']

/-- What is written to the container number `id'` is written to no other one, and to none if there is no such
container. -/
theorem containers_written {e' : Encoder} {id' : Nat} (fields : List (String × Slot)) (items : List Slot)
    {fields' : List (String × Slot)} {items' : List Slot}
    (hfields : fields' = if id' = id ∧ id < e.containers.size then fields else [])
    (hitems : items' = if id' = id ∧ id < e.containers.size then items else [])
    (hnone : e.containers[id']? = none → e' = e)
    (hsome : ∀ c, e.containers[id']? = some c →
      e'.containers[id]? = if id' = id then some (c.write fields items) else e.containers[id]?) :
    e'.containers[id]? = e.containers[id]?.map (Container.write fields' items') := by
  cases hget : e.containers[id']? with
  | none =>
    have hnot : ¬(id' = id ∧ id < e.containers.size) := by
      rintro ⟨rfl, hid⟩
      exact absurd (Array.getElem?_eq_none_iff.1 hget) (Nat.not_le.2 hid)
    rw [hnone hget, hfields, hitems, if_neg hnot, if_neg hnot, map_write_nil]
  | some c =>
    rw [hsome c hget, hfields, hitems]
    by_cases h : id' = id
    · subst h
      have hid : id' = id' ∧ id' < e.containers.size := ⟨rfl, (Array.getElem?_eq_some_iff.1 hget).1⟩
      rw [if_pos rfl, if_pos hid, if_pos hid, hget, Option.map_some]
    · have hnot : ¬(id' = id ∧ id < e.containers.size) := fun hand => h hand.1
      rw [if_neg h, if_neg hnot, if_neg hnot, map_write_nil]

/-- A container of the other kind stays as it is. -/
theorem containers_kept {c c' : Container} {id' : Nat} (hget : e.containers[id']? = some c) (hc : c' = c) :
    e.containers[id]? = if id' = id then some c' else e.containers[id]? := by
  split
  · next h => rw [← h, hget, hc]
  · rfl

/-- Setting a field writes it to the container that is meant, if there is one. -/
theorem containers_insert (id' : Nat) (key : String) (slot : Slot) :
    ((Operation.insert id' key slot).apply e).containers[id]? =
      e.containers[id]?.map (Container.write ((Operation.insert id' key slot).fields id e.containers.size) []) := by
  rw [Operation.apply, insert]
  refine containers_written [(key, slot)] [] rfl (ite_self []).symm (fun hget => ?_) fun c hget => ?_
  · rw [hget]
    rfl
  · rw [hget]
    cases c with
    | object entries => exact containers_replace _ (Array.getElem?_eq_some_iff.1 hget).1
    | array items => exact containers_kept hget (by rw [Container.write, List.toArray, Array.append_empty])

theorem containers_push (id' : Nat) (slot : Slot) :
    ((Operation.push id' slot).apply e).containers[id]? =
      e.containers[id]?.map (Container.write [] ((Operation.push id' slot).items id e.containers.size)) := by
  rw [Operation.apply, push]
  refine containers_written [] [slot] (ite_self []).symm rfl (fun hget => ?_) fun c hget => ?_
  · rw [hget]
    rfl
  · rw [hget]
    cases c with
    | object entries => exact containers_kept hget rfl
    | array items => exact containers_replace _ (Array.getElem?_eq_some_iff.1 hget).1

theorem attach_snd (parent : Nat) (key : String) (added : Nat × Encoder) :
    (attach parent key added).2 = (Operation.insert parent key (.container added.1)).apply added.2 := by
  rw [attach, Operation.apply]
  cases added.2.insert parent key (.container added.1) with
  | ok e => rfl
  | error error => rfl

/-- **What an operation does:** it adds containers and writes to the container that is meant. -/
theorem containers_apply (op : Operation) :
    (op.apply e).containers[id]? = (e.extend op.kinds).containers[id]?.map
      (Container.write (op.fields id e.containers.size) (op.items id e.containers.size)) := by
  have hnone : e.extend [] = e := by
    rw [extend, List.map_nil, List.toArray, Array.append_empty]
  cases op with
  | beginObject => exact (map_write_nil _).symm
  | beginArray => exact (map_write_nil _).symm
  | nestObject parent key =>
    rw [Operation.apply, nestObject, attach_snd, containers_insert, beginObject, allocate, Array.size_push]
    rfl
  | nestArray parent key =>
    rw [Operation.apply, nestArray, attach_snd, containers_insert, beginArray, allocate, Array.size_push]
    rfl
  | insert id' key slot =>
    rw [containers_insert, Operation.kinds, hnone]
    rfl
  | push id' slot =>
    rw [containers_push, Operation.kinds, hnone]
    rfl

theorem size_extend (kinds : List ContainerKind) :
    (e.extend kinds).containers.size = e.containers.size + kinds.length := by
  simp [extend]

theorem extend_append (kinds kinds' : List ContainerKind) :
    e.extend (kinds ++ kinds') = (e.extend kinds).extend kinds' := by
  simp [extend]

theorem size_apply (op : Operation) : (op.apply e).containers.size = e.containers.size + op.kinds.length := by
  rw [← size_extend]
  refine eq_of_forall_ge_iff fun id => ?_
  rw [← Array.getElem?_eq_none_iff, containers_apply, Option.map_eq_none_iff, Array.getElem?_eq_none_iff]

theorem fields_eq_nil {op : Operation} {count : Nat} (hid : count + op.kinds.length ≤ id) :
    op.fields id count = [] := by
  cases op with
  | nestObject parent key => exact if_neg fun h => Nat.not_le.2 h.2 hid
  | nestArray parent key => exact if_neg fun h => Nat.not_le.2 h.2 hid
  | insert id' key slot => exact if_neg fun h => Nat.not_le.2 h.2 hid
  | _ => rfl

theorem items_eq_nil {op : Operation} {count : Nat} (hid : count + op.kinds.length ≤ id) :
    op.items id count = [] := by
  cases op with
  | push id' slot => exact if_neg fun h => Nat.not_le.2 h.2 hid
  | _ => rfl

/-! ### Several operations -/

theorem containers_extend_apply (op : Operation) (kinds : List ContainerKind) :
    ((op.apply e).extend kinds).containers[id]? = (e.extend (op.kinds ++ kinds)).containers[id]?.map
      (Container.write (op.fields id e.containers.size) (op.items id e.containers.size)) := by
  have happend (e : Encoder) : (e.extend kinds).containers = e.containers ++ (kinds.map Container.new).toArray := rfl
  have hsize : (op.apply e).containers.size = (e.extend op.kinds).containers.size := by
    rw [size_apply, size_extend]
  rw [extend_append, happend, happend, Array.getElem?_append, Array.getElem?_append, hsize]
  split
  · exact containers_apply op
  · next hid =>
    -- what is not there yet is not written to, so it may as well be added later
    have hid' : e.containers.size + op.kinds.length ≤ id := by
      rw [← size_extend]
      exact Nat.not_lt.1 hid
    rw [fields_eq_nil hid', items_eq_nil hid', Option.map_congr fun c _ => write_nil c, Option.map_id']

/-- **What operations do:** they add containers and write to each what is meant for it. -/
theorem containers_runFrom (ops : List Operation) (e : Encoder) :
    (runFrom e ops).containers[id]? = (e.extend (ops.flatMap Operation.kinds)).containers[id]?.map
      (Container.write (Operation.history (Operation.fields id) e.containers.size ops)
        (Operation.history (Operation.items id) e.containers.size ops)) := by
  -- the encoder before the operations is any one, as the later ones start where the first has ended
  induction ops generalizing e with
  | nil =>
    rw [Operation.history, Operation.history, Option.map_congr fun c _ => write_nil c, Option.map_id']
    simp [runFrom, extend]
  | cons op ops ih =>
    rw [runFrom, List.foldl_cons]
    refine (ih (op.apply e)).trans ?_
    rw [containers_extend_apply, size_apply, List.flatMap_cons, Option.map_map, Operation.history, Operation.history]
    refine Option.map_congr fun c _ => ?_
    rw [Function.comp_apply, write_write]

/-- **Contents after operations.** Every container holds what the operations have written to it. -/
theorem records_run (ops : List Operation) : Records ops (run ops) := by
  have hget (id : Nat) : (run ops).containers[id]? = (ops.flatMap Operation.kinds)[id]?.map fun kind =>
      (Container.new kind).write (Operation.history (Operation.fields id) 0 ops)
        (Operation.history (Operation.items id) 0 ops) := by
    rw [run, containers_runFrom]
    simp [extend, empty, Function.comp_def]
  have hobject {id : Nat} {entries : List (String × Slot)}
      (h : (run ops).containers[id]? = some (.object entries)) :
      entries = Entries.ofList (Operation.history (Operation.fields id) 0 ops) := by
    obtain ⟨kind, -, hkind⟩ := Option.map_eq_some_iff.1 ((hget id).symm.trans h)
    cases kind with
    | object => exact (Container.object.inj hkind).symm
    | array => exact Container.noConfusion hkind
  constructor
  case kinds =>
    refine List.ext_getElem? fun id => ?_
    rw [List.getElem?_map, Array.getElem?_toList, hget, Option.map_map]
    refine (Option.map_congr fun kind _ => ?_).trans (congrFun Option.map_id _)
    rw [Function.comp_apply, kind_write]
    cases kind with
    | object => rfl
    | array => rfl
  case sorted =>
    intro id entries h
    rw [hobject h]
    exact Entries.sorted_ofList _
  case fields =>
    intro id entries h key
    rw [hobject h]
    exact Entries.find?_ofList key _
  case items =>
    intro id items h
    obtain ⟨kind, -, hkind⟩ := Option.map_eq_some_iff.1 ((hget id).symm.trans h)
    cases kind with
    | object => exact Container.noConfusion hkind
    | array =>
      rw [← Container.array.inj hkind, Array.empty_append]

/-- **What is put together after operations.** Let the containers hold what any operations have written to them. If
there is one path from the root to each container that paths lead to, and all of these are there, the root is put
together to its unfolding. Otherwise it is refused with a container that is reached, but is missing or reached twice.
It makes no difference how many levels are allowed for, once they are as many as containers. -/
theorem finish_run (ops : List Operation) (root : Slot) :
    Records ops (run ops) ∧
      (∀ v, (run ops).finish root = .ok v ↔ (run ops).IsTree root ∧ (run ops).Unfolds root v) ∧
      ((∃ v, (run ops).finish root = .ok v) ↔ (run ops).IsTree root) ∧
      (∀ error, (run ops).finish root = .error error → ∃ id, error = .reused id ∧
        (∃ path, (run ops).Reaches root path id) ∧
        ((run ops).containers.size ≤ id ∨ Twice ((run ops).Reaches root) id)) ∧
      ∀ extra, (resolve ((run ops).containers.size + extra) root ((run ops).containers.map some)).map Prod.fst =
        (run ops).finish root := by
  refine ⟨records_run ops, fun v => finish_eq_ok_iff, ?_, fun error => reused_of_finish_eq_error,
    resolve_add_eq_finish (run ops) root⟩
  constructor
  · rintro ⟨v, h⟩
    exact (finish_eq_ok_iff.1 h).1
  · intro htree
    obtain ⟨v, hfinish, -⟩ := finish_of_isTree htree
    exact ⟨v, hfinish⟩

/-- A container is written to after it has been attached. -/
example : (run [.beginArray, .beginObject, .push 0 (.container 1), .insert 1 "k" (.value .null)]).finish
    (.container 0) = .ok (.array [.object [("k", .null)]]) := by
  cbv

/-- An object that is attached to itself is reached twice. -/
example : (run [.nestObject 0 "me"]).finish (.container 0) = .error (.reused 0) := by
  cbv

end

end Encoder

end SqlFormula.Typed
