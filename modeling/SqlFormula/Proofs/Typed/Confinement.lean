import Mathlib
import SqlFormula.Proofs.Typed.Encoding
import SqlFormula.Proofs.Typed.History
import SqlFormula.Proofs.Typed.References

/-!
# What steps can write to

An operation names the containers that it is about. It writes to no others that were there before, and where it adds a
reference, both ends of it are named or new. The same holds of steps one after the other that pass on what they have
been given, and so of storing typed data: this names no container at all, so whatever it leaves behind, also where it
fails, is apart from all that was there before.

## Main definitions

- `Operation.handles` — the containers that an operation names
- `Operation.answer` — what an operation gives back
- `Encoder.Confined` — only named containers are written to, and references are added only among them and new ones
- `Encoder.Answered` — what is given back is new, or what has failed has written to nothing
- `Building.Confines` — a step does no more than that, whether it succeeds or fails

## Main statements

- `Encoder.Confined.trans` — one change after another
- `Encoder.confined_apply`, `Encoder.answered_apply` — what an operation can write to
- `Datum.confines_build` — what storing typed data can write to
-/

namespace SqlFormula.Typed

namespace Operation

/-- The containers that an operation names. -/
def handles : Operation → Finset Nat
  | .beginObject | .beginArray => ∅
  | .nestObject parent _ | .nestArray parent _ => {parent}
  | .insert id _ slot | .push id slot => {id} ∪ slot.ids

/-- What an operation gives back: the container that it has added, if it adds one. -/
def answer : Operation → Encoder → Except EncodeError (Option Slot)
  | .beginObject, e => .ok (some (.container e.beginObject.1))
  | .beginArray, e => .ok (some (.container e.beginArray.1))
  | .nestObject parent key, e => (e.nestObject parent key).1.map fun id => some (.container id)
  | .nestArray parent key, e => (e.nestArray parent key).1.map fun id => some (.container id)
  | .insert id key slot, e => (e.insert id key slot).map fun _ => none
  | .push id slot, e => (e.push id slot).map fun _ => none

end Operation

namespace Encoder

/-- A container that is named or new. -/
def Owned (handles : Finset Nat) (e e' : Encoder) (id : Nat) : Prop :=
  id ∈ handles ∨ e.containers.size ≤ id ∧ id < e'.containers.size

/-- Containers are added, and of those that were there only named ones are written to. References are added only
among containers that are named or new. -/
structure Confined (handles : Finset Nat) (e e' : Encoder) : Prop where
  extends_handles : e.Extends handles e'
  refers : ∀ id id', e'.Refers id id' → e.Refers id id' ∨ Owned handles e e' id ∧ Owned handles e e' id'

section

variable {handles handles' : Finset Nat} {e e' e'' : Encoder} {id id' : Nat}

theorem Confined.refl (handles : Finset Nat) (e : Encoder) : Confined handles e e :=
  ⟨.refl e, fun _ _ h => .inl h⟩

theorem Owned.after (h : Owned handles e e' id) (hsize : e'.containers.size ≤ e''.containers.size) :
    Owned handles e e'' id :=
  h.imp_right fun ⟨hle, hlt⟩ => ⟨hle, hlt.trans_le hsize⟩

theorem Owned.before (h : Owned handles' e' e'' id) (hsub : ∀ id ∈ handles', Owned handles e e' id)
    (hsize : e.containers.size ≤ e'.containers.size) (hsize' : e'.containers.size ≤ e''.containers.size) :
    Owned handles e e'' id := by
  obtain h | ⟨hle, hlt⟩ := h
  · exact (hsub id h).after hsize'
  · exact .inr ⟨hsize.trans hle, hlt⟩

/-- **One change after another.** The second may name what is named to the first, and what the first has added. -/
theorem Confined.trans (h : Confined handles e e') (h' : Confined handles' e' e'')
    (hsub : ∀ id ∈ handles', Owned handles e e' id) : Confined handles e e'' where
  extends_handles := by
    refine ⟨h.extends_handles.size_le.trans h'.extends_handles.size_le, fun id hid hnot => ?_⟩
    refine (h'.extends_handles.get_eq id (hid.trans_le h.extends_handles.size_le) fun hmem => ?_).trans
      (h.extends_handles.get_eq id hid hnot)
    obtain hmem | ⟨hle, -⟩ := hsub id hmem
    · exact hnot hmem
    · exact Nat.not_le.2 hid hle
  refers id id' hrefers := by
    have hsize := h.extends_handles.size_le
    have hsize' := h'.extends_handles.size_le
    obtain hrefers | ⟨hid, hid'⟩ := h'.refers id id' hrefers
    · exact (h.refers id id' hrefers).imp_right fun ⟨hid, hid'⟩ => ⟨hid.after hsize', hid'.after hsize'⟩
    · exact .inr ⟨hid.before hsub hsize hsize', hid'.before hsub hsize hsize'⟩

theorem Confined.mono (h : Confined handles e e') (hsub : handles ⊆ handles') : Confined handles' e e' where
  extends_handles := h.extends_handles.mono hsub
  refers id id' hrefers := (h.refers id id' hrefers).imp_right fun ⟨hid, hid'⟩ =>
    ⟨hid.imp_left fun hmem => hsub hmem, hid'.imp_left fun hmem => hsub hmem⟩

/-! ### Operations -/

theorem confined_allocate {c : Container} (hslots : c.slots = []) (e : Encoder) :
    Confined handles e (e.allocate c).2 where
  extends_handles := (extends_allocate c e).mono (Finset.empty_subset handles)
  refers id id' hrefers := by
    obtain ⟨c', hc', hslot⟩ := hrefers
    rw [allocate, Array.getElem?_push] at hc'
    split at hc'
    · obtain rfl := Option.some.inj hc'
      rw [hslots] at hslot
      exact absurd hslot List.not_mem_nil
    · exact .inl ⟨c', hc', hslot⟩

theorem owned_allocate (c : Container) (e : Encoder) : Owned handles e (e.allocate c).2 e.containers.size := by
  refine .inr ⟨Nat.le_refl _, ?_⟩
  rw [allocate, Array.size_push]
  exact Nat.lt_succ_self _

/-- What a container holds after it has been written to is the slot that has been written, or was there before. -/
theorem confined_replace {c c' : Container} {slot : Slot} (hc : e.containers[id]? = some c)
    (hslots : ∀ s ∈ c'.slots, s = slot ∨ s ∈ c.slots) : Confined ({id} ∪ slot.ids) e (e.replace id c') where
  extends_handles := (extends_replace id c' e).mono Finset.subset_union_left
  refers i i' hrefers := by
    obtain ⟨c'', hc'', hslot⟩ := hrefers
    rw [containers_replace c' (Array.getElem?_eq_some_iff.1 hc).1] at hc''
    split at hc''
    · next hid =>
      obtain rfl := Option.some.inj hc''
      subst hid
      obtain rfl | hslot := hslots _ hslot
      · exact .inr ⟨.inl (Finset.mem_union_left _ (Finset.mem_singleton_self id)),
          .inl (Finset.mem_union_right _ (Finset.mem_singleton_self i'))⟩
      · exact .inl ⟨c, hc, hslot⟩
    · exact .inl ⟨c'', hc'', hslot⟩

theorem confined_insert {key : String} {slot : Slot} (h : e.insert id key slot = .ok e') :
    Confined ({id} ∪ slot.ids) e e' := by
  rw [Encoder.insert] at h
  split at h
  · next entries hc =>
    obtain rfl := Except.ok.inj h
    refine confined_replace hc fun s hs => ?_
    obtain ⟨entry, hentry, rfl⟩ := List.mem_map.1 hs
    obtain rfl | hentry := Entries.mem_insert hentry
    · exact .inl rfl
    · exact .inr (List.mem_map_of_mem hentry)
  · cases h
  · cases h

theorem confined_push {slot : Slot} (h : e.push id slot = .ok e') : Confined ({id} ∪ slot.ids) e e' := by
  rw [Encoder.push] at h
  split at h
  · next items hc =>
    obtain rfl := Except.ok.inj h
    refine confined_replace hc fun s hs => ?_
    rw [Container.slots, Array.toList_push, List.mem_append, List.mem_singleton] at hs
    exact hs.symm
  · cases h
  · cases h

/-- A container is attached, or else it is left as it has been added. -/
theorem attach_cases (parent : Nat) (key : String) (added : Nat × Encoder) :
    (∃ e', added.2.insert parent key (.container added.1) = .ok e' ∧ attach parent key added = (.ok added.1, e')) ∨
      ∃ error, attach parent key added = (.error error, added.2) := by
  rw [attach]
  cases added.2.insert parent key (.container added.1) with
  | ok e' => exact .inl ⟨e', rfl, rfl⟩
  | error error => exact .inr ⟨error, rfl⟩

/-- A container is added and attached, or added only. -/
theorem confined_attach {c : Container} (hslots : c.slots = []) (parent : Nat) (key : String) (e : Encoder) :
    Confined {parent} e (attach parent key (e.allocate c)).2 ∧
      ∀ id, (attach parent key (e.allocate c)).1 = .ok id →
        Owned {parent} e (attach parent key (e.allocate c)).2 id := by
  have hnew : Confined {parent} e (e.allocate c).2 := confined_allocate hslots e
  have howned : Owned {parent} e (e.allocate c).2 e.containers.size := owned_allocate c e
  obtain ⟨e', hinsert, hattach⟩ | ⟨error, hattach⟩ := attach_cases parent key (e.allocate c)
  · have hinserted := confined_insert hinsert
    rw [hattach]
    refine ⟨hnew.trans hinserted fun id hid => ?_, fun id hid => ?_⟩
    · obtain hid | hid := Finset.mem_union.1 hid
      · exact .inl hid
      · rw [Finset.mem_singleton.1 hid]
        exact howned
    · rw [← Except.ok.inj hid]
      exact howned.after hinserted.extends_handles.size_le
  · rw [hattach]
    exact ⟨hnew, fun id hid => by cases hid⟩

/-- **An operation writes only to containers that it names,** whether it succeeds or fails. -/
theorem confined_apply (op : Operation) (e : Encoder) : Confined op.handles e (op.apply e) := by
  cases op with
  | beginObject | beginArray => exact confined_allocate rfl e
  | nestObject parent key | nestArray parent key => exact (confined_attach rfl parent key e).1
  | insert id key slot =>
    rw [Operation.apply]
    cases hinsert : e.insert id key slot with
    | ok e' => exact confined_insert hinsert
    | error error => exact .refl _ e
  | push id slot =>
    rw [Operation.apply]
    cases hpush : e.push id slot with
    | ok e' => exact confined_push hpush
    | error error => exact .refl _ e

/-- What has been given back is new, or what has failed has written to nothing. -/
def Answered (e e' : Encoder) : Except EncodeError (Option Slot) → Prop
  | .ok given => ∀ slot ∈ given, ∀ id ∈ slot.ids, Owned ∅ e e' id
  | .error _ => Confined ∅ e e'

theorem answered_added {c : Container} (hsize : (e.allocate c).2.containers.size ≤ e'.containers.size) :
    Answered e e' (.ok (some (.container (e.allocate c).1))) := by
  intro slot hslot id hid
  rw [← Option.some.inj hslot] at hid
  rw [Finset.mem_singleton.1 hid]
  exact (owned_allocate c e).after hsize

/-- **An operation that fails has written to nothing,** and one that gives back a container has added it. -/
theorem answered_apply (op : Operation) (e : Encoder) : Answered e (op.apply e) (op.answer e) := by
  have hnested {c : Container} (hslots : c.slots = []) (parent : Nat) (key : String) :
      Answered e (attach parent key (e.allocate c)).2
        ((attach parent key (e.allocate c)).1.map fun id => some (.container id)) := by
    obtain ⟨e', hinsert, hattach⟩ | ⟨error, hattach⟩ := attach_cases parent key (e.allocate c)
    · rw [hattach]
      exact answered_added (confined_insert hinsert).extends_handles.size_le
    · rw [hattach]
      exact confined_allocate hslots e
  cases op with
  | beginObject | beginArray => exact answered_added (Nat.le_refl _)
  | nestObject parent key | nestArray parent key => exact hnested rfl parent key
  | insert id key slot =>
    rw [Operation.answer, Operation.apply]
    cases e.insert id key slot with
    | ok e' => exact fun slot hslot => absurd hslot (Option.not_mem_none slot)
    | error error => exact .refl ∅ e
  | push id slot =>
    rw [Operation.answer, Operation.apply]
    cases e.push id slot with
    | ok e' => exact fun slot hslot => absurd hslot (Option.not_mem_none slot)
    | error error => exact .refl ∅ e

end

end Encoder

open Encoder

namespace Building

variable {α β : Type} {handles : Finset Nat} {step : Building α} {ids : α → Finset Nat}

/-- A step writes only to named containers, whether it succeeds or fails, and gives only such as are named or new. -/
def Confines (handles : Finset Nat) (step : Building α) (ids : α → Finset Nat) : Prop :=
  ∀ e, Confined handles e (step.run e).2 ∧
    ∀ a, (step.run e).1 = .ok a → ∀ id ∈ ids a, Owned handles e (step.run e).2 id

theorem confines_pure {a : α} (h : ids a ⊆ handles) : Confines handles (pure a) ids := by
  refine fun e => ⟨.refl handles e, fun b hb id hid => .inl (h ?_)⟩
  rw [Except.ok.inj hb]
  exact hid

theorem confines_throw (error : EncodeError) : Confines handles (throw error : Building α) ids :=
  fun e => ⟨.refl handles e, fun a ha => by cases ha⟩

theorem confines_liftM {r : Except EncodeError α} (h : ∀ a, r = .ok a → ids a ⊆ handles) :
    Confines handles (liftM r : Building α) ids := by
  cases r with
  | ok a => exact confines_pure (h a rfl)
  | error error => exact confines_throw error

theorem confines_read (step : Encoder → Except EncodeError α) : Confines handles (read step) fun _ => ∅ :=
  fun e => ⟨.refl handles e, fun _ _ id hid => absurd hid (Finset.notMem_empty id)⟩

/-- What comes second may name what is named to the first, and what the first has given. -/
theorem Confines.bind {f : α → Building β} {ids' : β → Finset Nat} (h : Confines handles step ids)
    (hf : ∀ a, Confines (handles ∪ ids a) (f a) ids') : Confines handles (step >>= f) ids' := by
  intro e
  obtain ⟨hconfined, hids⟩ := h e
  rw [run_bind]
  cases ha : (step.run e).1 with
  | error error => exact ⟨hconfined, fun b hb => by cases hb⟩
  | ok a =>
    obtain ⟨hconfined', hids'⟩ := hf a (step.run e).2
    have hsub : ∀ id ∈ handles ∪ ids a, Owned handles e (step.run e).2 id := fun id hid =>
      (Finset.mem_union.1 hid).elim .inl (hids a ha id)
    exact ⟨hconfined.trans hconfined' hsub, fun b hb id hid => (hids' b hb id hid).before hsub
      hconfined.extends_handles.size_le hconfined'.extends_handles.size_le⟩

theorem confines_add {c : Container} (hslots : c.slots = []) :
    Confines handles (add (allocate c)) fun id => {id} := by
  refine fun e => ⟨confined_allocate hslots e, fun a ha id hid => ?_⟩
  rw [Finset.mem_singleton.1 hid, ← Except.ok.inj ha]
  exact owned_allocate c e

theorem confines_nest {c : Container} (hslots : c.slots = []) {parent : Nat} (hparent : parent ∈ handles) (key : String) :
    Confines handles (nest fun e => attach parent key (e.allocate c)) fun id => {id} := by
  intro e
  obtain ⟨hconfined, howned⟩ := confined_attach hslots parent key e
  refine ⟨hconfined.mono (Finset.singleton_subset_iff.2 hparent), fun a ha id hid => ?_⟩
  rw [Finset.mem_singleton.1 hid]
  exact (howned a ha).imp_left fun hmem => Finset.singleton_subset_iff.2 hparent hmem

theorem confines_write {step : Encoder → Except EncodeError Encoder}
    (h : ∀ e e', step e = .ok e' → Confined handles e e') : Confines handles (write step) fun _ => ∅ := by
  refine fun e => ⟨?_, fun _ _ id hid => absurd hid (Finset.notMem_empty id)⟩
  rw [ExceptT.run, write]
  cases hstep : step e with
  | ok e' => exact h e e' hstep
  | error error => exact .refl handles e

theorem confines_insert {id : Nat} {slot : Slot} (hid : id ∈ handles) (key : String) (hslot : slot.ids ⊆ handles) :
    Confines handles (write (Encoder.insert id key slot)) fun _ => ∅ :=
  confines_write fun _ _ h =>
    (confined_insert h).mono (Finset.union_subset (Finset.singleton_subset_iff.2 hid) hslot)

theorem confines_push {id : Nat} {slot : Slot} (hid : id ∈ handles) (hslot : slot.ids ⊆ handles) :
    Confines handles (write (Encoder.push id slot)) fun _ => ∅ :=
  confines_write fun _ _ h =>
    (confined_push h).mono (Finset.union_subset (Finset.singleton_subset_iff.2 hid) hslot)

end Building

open Building

namespace Datum

theorem confines_value (handles : Finset Nat) (v : Value) :
    Confines handles (pure (.value v) : Building Slot) Slot.ids :=
  confines_pure (Finset.empty_subset handles)

theorem confines_container {handles : Finset Nat} {id : Nat} (hid : id ∈ handles) :
    Confines handles (pure (.container id) : Building Slot) Slot.ids :=
  confines_pure (Finset.singleton_subset_iff.2 hid)

/-- A container is added, filled and given. -/
theorem confines_filled {handles : Finset Nat} {c : Container} (hslots : c.slots = []) {fill : Nat → Building Unit}
    (hfill : ∀ handles id, id ∈ handles → Confines handles (fill id) fun _ => ∅) :
    Confines handles (add (allocate c) >>= fun id => fill id >>= fun _ => pure (.container id)) Slot.ids := by
  refine (confines_add hslots).bind fun id => ?_
  have hid : id ∈ handles ∪ {id} := Finset.mem_union_right _ (Finset.mem_singleton_self id)
  exact (hfill _ id hid).bind fun _ => confines_container (Finset.mem_union_left _ hid)

/-- An object is added, a container is attached to it and filled, and the object is given. -/
theorem confines_variant {handles : Finset Nat} {c : Container} (hslots : c.slots = []) (name : String)
    {fill : Nat → Building Unit} (hfill : ∀ handles id, id ∈ handles → Confines handles (fill id) fun _ => ∅) :
    Confines handles (add (allocate (.object [])) >>= fun outer =>
      (nest fun e => attach outer name (e.allocate c)) >>= fun id =>
        fill id >>= fun _ => pure (.container outer)) Slot.ids := by
  refine (confines_add rfl).bind fun outer => ?_
  have houter : outer ∈ handles ∪ {outer} := Finset.mem_union_right _ (Finset.mem_singleton_self outer)
  refine (confines_nest hslots houter name).bind fun id => ?_
  have hid : id ∈ handles ∪ {outer} ∪ {id} := Finset.mem_union_right _ (Finset.mem_singleton_self id)
  exact (hfill _ id hid).bind fun _ =>
    confines_container (Finset.mem_union_left _ (Finset.mem_union_left _ houter))

theorem ids_of_unsignedSlot {n : UInt64} {path : List Segment} {slot : Slot} (h : unsignedSlot n path = .ok slot) :
    slot.ids = ∅ := by
  rw [unsignedSlot] at h
  split at h
  · rw [← Except.ok.inj h, Slot.ids]
  · cases h

theorem ids_of_dateTimeSlot {path : List Segment} {slot slot' : Slot} (h : dateTimeSlot path slot = .ok slot') :
    slot'.ids = ∅ := by
  unfold dateTimeSlot at h
  split at h
  · split at h
    · rw [← Except.ok.inj h, Slot.ids]
    · cases h
  · cases h

mutual

/-- **Storing typed data writes to no container that was there before,** whether it succeeds or fails, whatever the
containers are that its surroundings write to. -/
theorem confines_build (handles : Finset Nat) (path : List Segment) (d : Datum) :
    Confines handles (d.build path) Slot.ids := by
  cases d with
  | nothing => exact confines_value handles _
  | boolean b => exact confines_value handles _
  | integer i => exact confines_value handles _
  | unsigned n =>
    refine confines_liftM fun slot hslot => ?_
    rw [ids_of_unsignedSlot hslot]
    exact Finset.empty_subset handles
  | wide signed => exact confines_throw _
  | float x => exact confines_value handles _
  | text s => exact confines_value handles _
  | bytes bs => exact confines_value handles _
  | wrapped d => exact confines_build handles path d
  | dateTime d =>
    refine (confines_build handles path d).bind fun slot => confines_liftM fun slot' hslot' => ?_
    rw [ids_of_dateTimeSlot hslot']
    exact Finset.empty_subset _
  | sequence items => exact confines_filled rfl fun _ _ hid => confines_buildItems hid path items
  | mapping parts => exact confines_filled rfl fun _ _ hid => confines_buildParts hid path none parts
  | struct fields => exact confines_filled rfl fun _ _ hid => confines_buildFields hid path fields
  | unitVariant name => exact confines_value handles _
  | wrappedVariant name d =>
    refine (confines_build handles (path ++ [.field name]) d).bind fun slot =>
      (confines_add (c := .object []) rfl).bind fun id => ?_
    have hid : id ∈ handles ∪ slot.ids ∪ {id} := Finset.mem_union_right _ (Finset.mem_singleton_self id)
    have hslot : slot.ids ⊆ handles ∪ slot.ids ∪ {id} := Finset.subset_union_right.trans Finset.subset_union_left
    exact (confines_insert hid name hslot).bind fun _ =>
      confines_container (Finset.mem_union_left _ hid)
  | tupleVariant name items =>
    exact confines_variant rfl name fun _ _ hid => confines_buildItems hid (path ++ [.field name]) items
  | structVariant name fields =>
    exact confines_variant rfl name fun _ _ hid => confines_buildFields hid (path ++ [.field name]) fields
  | failing message => exact confines_throw _

theorem confines_buildItems {handles : Finset Nat} {id : Nat} (hid : id ∈ handles) (path : List Segment)
    (ds : List Datum) : Confines handles (buildItems id path ds) fun _ => ∅ := by
  match ds with
  | [] => exact confines_pure (Finset.empty_subset handles)
  | d :: ds =>
    refine (confines_read _).bind fun index => (confines_build _ (path ++ [.item index]) d).bind fun slot => ?_
    have hid : id ∈ handles ∪ ∅ ∪ slot.ids := Finset.mem_union_left _ (Finset.mem_union_left _ hid)
    exact (confines_push hid Finset.subset_union_right).bind fun _ =>
      confines_buildItems (Finset.mem_union_left _ hid) path ds

theorem confines_buildParts {handles : Finset Nat} {id : Nat} (hid : id ∈ handles) (path : List Segment)
    (pending : Option String) (ps : List MapPart) : Confines handles (buildParts id path pending ps) fun _ => ∅ := by
  match ps, pending with
  | [], _ => exact confines_pure (Finset.empty_subset handles)
  | .key d :: rest, _ =>
    refine (confines_build handles path d).bind fun slot =>
      (confines_liftM fun _ _ => Finset.empty_subset _).bind fun key => ?_
    exact confines_buildParts (Finset.mem_union_left _ (Finset.mem_union_left _ hid)) path (some key) rest
  | .value d :: rest, none => exact confines_throw _
  | .value d :: rest, some key =>
    refine (confines_build handles (path ++ [.field key]) d).bind fun slot => ?_
    have hid : id ∈ handles ∪ slot.ids := Finset.mem_union_left _ hid
    exact (confines_insert hid key Finset.subset_union_right).bind fun _ =>
      confines_buildParts (Finset.mem_union_left _ hid) path none rest

theorem confines_buildFields {handles : Finset Nat} {id : Nat} (hid : id ∈ handles) (path : List Segment)
    (fs : List (String × Datum)) : Confines handles (buildFields id path fs) fun _ => ∅ := by
  match fs with
  | [] => exact confines_pure (Finset.empty_subset handles)
  | (key, d) :: rest =>
    refine (confines_build handles (path ++ [.field key]) d).bind fun slot => ?_
    have hid : id ∈ handles ∪ slot.ids := Finset.mem_union_left _ hid
    exact (confines_insert hid key Finset.subset_union_right).bind fun _ =>
      confines_buildFields (Finset.mem_union_left _ hid) path rest

end

end Datum

end SqlFormula.Typed
