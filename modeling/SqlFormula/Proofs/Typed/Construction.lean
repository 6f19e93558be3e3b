import Mathlib
import SqlFormula.Proofs.Entries
import SqlFormula.Proofs.Typed.Assembly

/-!
# Containers under construction

Data is stored part by part: each part adds containers of its own, and its slot goes into the container around it.
So the containers that different parts reach are different, and writing to the container around them changes none.

## Main definitions

- `Encoder.Extends` — containers are added, and of the others only some are written to
- `Part` — a slot with the containers it reaches and the value it unfolds to
- `Encoder.Composed` — a container whose slots are parts that reach different containers

## Main statements

- `Part.Sound.congr` — a part does not mind what happens to containers it does not reach
- `Encoder.Composed.attach` — a part with new containers goes into a container
- `Encoder.Composed.close` — a container of parts is a part itself
-/

namespace SqlFormula.Typed

namespace Encoder

/-- Containers are added, and of those that were there only some are written to. -/
structure Extends (written : Finset Nat) (e e' : Encoder) : Prop where
  size_le : e.containers.size ≤ e'.containers.size
  get_eq : ∀ id < e.containers.size, id ∉ written → e'.containers[id]? = e.containers[id]?

section

variable {written : Finset Nat} {e e' e'' : Encoder}

theorem Extends.refl (e : Encoder) : e.Extends written e :=
  ⟨Nat.le_refl _, fun _ _ _ => rfl⟩

theorem Extends.trans (h : e.Extends written e') (h' : e'.Extends written e'') : e.Extends written e'' where
  size_le := h.size_le.trans h'.size_le
  get_eq id hid hnot := (h'.get_eq id (hid.trans_le h.size_le) hnot).trans (h.get_eq id hid hnot)

theorem Extends.mono {written' : Finset Nat} (h : e.Extends written e') (hsubset : written ⊆ written') :
    e.Extends written' e' :=
  ⟨h.size_le, fun id hid hnot => h.get_eq id hid fun hmem => hnot (hsubset hmem)⟩

/-- What is written only to containers that were added before leaves the others as they were. -/
theorem Extends.trans_of_le (h : e.Extends ∅ e') (h' : e'.Extends written e'')
    (hwritten : ∀ id ∈ written, e.containers.size ≤ id) : e.Extends ∅ e'' where
  size_le := h.size_le.trans h'.size_le
  get_eq id hid hnot := by
    have hnot' : id ∉ written := fun hmem => Nat.not_le.2 hid (hwritten id hmem)
    exact (h'.get_eq id (hid.trans_le h.size_le) hnot').trans (h.get_eq id hid hnot)

theorem extends_allocate (c : Container) (e : Encoder) : e.Extends ∅ (e.allocate c).2 where
  size_le := by
    rw [allocate, Array.size_push]
    exact Nat.le_succ _
  get_eq id hid _ := by
    rw [allocate, Array.getElem?_push, if_neg (Nat.ne_of_lt hid)]

theorem extends_replace (id : Nat) (c : Container) (e : Encoder) : e.Extends {id} (e.replace id c) where
  size_le := by rw [replace, Array.size_setIfInBounds]
  get_eq id' _ hnot := by
    rw [replace, Array.getElem?_setIfInBounds, if_neg]
    exact fun h => hnot (Finset.mem_singleton.2 h.symm)

end

/-! ### Slots that do not reach what changes -/

/-- Two encoders have the same containers wherever paths lead. -/
def Agree (e e' : Encoder) (reaches : List Nat → Nat → Prop) : Prop :=
  ∀ path id, reaches path id → e'.containers[id]? = e.containers[id]?

section

variable {e e' : Encoder} {id : Nat} {c : Container} {slot : Slot} {slots : List Slot} {v : Value} {vs : List Value}

theorem Agree.below (hc : e.containers[id]? = some c) (h : e.Agree e' (e.Reaches (.container id))) :
    e.Agree e' (e.ReachesAmong c.slots) :=
  fun path id' hpath => h path id' ((reaches_container hc).2 (.inr hpath))

theorem Agree.head (h : e.Agree e' (e.ReachesAmong (slot :: slots))) : e.Agree e' (e.Reaches slot) :=
  fun path id hpath => h (0 :: path) id (reachesAmong_cons.2 (.inl ⟨path, rfl, hpath⟩))

theorem Agree.tail (h : e.Agree e' (e.ReachesAmong (slot :: slots))) : e.Agree e' (e.ReachesAmong slots) := by
  intro path id hpath
  obtain ⟨i, rest, rfl⟩ := exists_cons_of_reachesAmong hpath
  exact h ((i + 1) :: rest) id (reachesAmong_cons.2 (.inr ⟨i, rest, rfl, hpath⟩))

theorem Agree.slotAt?_eq (h : e.Agree e' (e.Reaches slot)) (path : List Nat) :
    e'.slotAt? path slot = e.slotAt? path slot := by
  induction path generalizing slot with
  | nil => rw [slotAt?, slotAt?]
  | cons i path ih =>
    cases slot with
    | value v => rw [slotAt?, slotAt?]
    | container id =>
      rw [slotAt?, slotAt?, h [] id (reaches_nil.2 rfl)]
      cases hc : e.containers[id]? with
      | none => rfl
      | some c =>
        cases hslot : c.slots[i]? with
        | none => simp only [hslot]
        | some slot =>
          simp only [hslot]
          exact ih fun path id' hpath => h.below hc (i :: path) id' ⟨i, path, slot, rfl, hslot, hpath⟩

theorem Agree.reaches_eq (h : e.Agree e' (e.Reaches slot)) : e'.Reaches slot = e.Reaches slot := by
  funext path id
  rw [Reaches, Reaches, h.slotAt?_eq]

theorem Unfolds.congr (hv : e.Unfolds slot v) (h : e.Agree e' (e.Reaches slot)) : e'.Unfolds slot v := by
  -- along the derivation, since what agrees for a container does so for its slots
  refine @Unfolds.rec e (fun slot v _ => e.Agree e' (e.Reaches slot) → e'.Unfolds slot v)
    (fun slots vs _ => e.Agree e' (e.ReachesAmong slots) → List.Forall₂ e'.Unfolds slots vs)
    ?value ?container ?nil ?cons slot v hv h
  case value => exact fun v _ => .value v
  case container =>
    intro id c vs hc _ ih h
    exact .container ((h [] id (reaches_nil.2 rfl)).trans hc) (ih (h.below hc))
  case nil => exact fun _ => .nil
  case cons => exact fun _ _ ih ihs h => .cons (ih h.head) (ihs h.tail)

end

end Encoder

/-! ### Parts -/

/-- A slot with the containers it reaches and the value it unfolds to. -/
structure Part where
  slot : Slot
  ids : Finset Nat
  value : Value

namespace Part

/-- The slot does reach these containers, each once, and does unfold to this value. -/
structure Sound (p : Part) (e : Encoder) : Prop where
  once : Encoder.OnceEach (e.Reaches p.slot) p.ids
  unfolds : e.Unfolds p.slot p.value

variable {p : Part} {e e' : Encoder}

theorem sound_value (v : Value) : Sound ⟨.value v, ∅, v⟩ e :=
  ⟨Encoder.onceEach_value v, .value v⟩

/-- A part does not mind what happens to containers that it does not reach. -/
theorem Sound.congr (h : p.Sound e) (hget : ∀ id ∈ p.ids, e'.containers[id]? = e.containers[id]?) : p.Sound e' := by
  have hagree : e.Agree e' (e.Reaches p.slot) := fun path id hpath => hget id ((h.once.mem_iff id).2 ⟨path, hpath⟩)
  refine ⟨?_, h.unfolds.congr hagree⟩
  rw [hagree.reaches_eq]
  exact h.once

def allIds (parts : List Part) : Finset Nat :=
  (parts.map ids).foldr (· ∪ ·) ∅

theorem mem_allIds {parts : List Part} {id : Nat} : id ∈ allIds parts ↔ ∃ p ∈ parts, id ∈ p.ids := by
  induction parts with
  | nil => simp [allIds]
  | cons p parts ih =>
    rw [allIds, List.map_cons, List.foldr_cons, Finset.mem_union, List.exists_mem_cons_iff, ← ih]
    rfl

theorem onceEach_allIds {parts : List Part} (h : ∀ p ∈ parts, p.Sound e)
    (hdisjoint : parts.Pairwise fun p q => Disjoint p.ids q.ids) :
    Encoder.OnceEach (e.ReachesAmong (parts.map slot)) (allIds parts) := by
  induction parts with
  | nil => exact Encoder.onceEach_nil
  | cons p parts ih =>
    obtain ⟨hp, hparts⟩ := List.forall_mem_cons.1 h
    obtain ⟨hfirst, hothers⟩ := List.pairwise_cons.1 hdisjoint
    refine Encoder.onceEach_cons hp.once (ih hparts hothers) (Finset.disjoint_left.2 fun id hid hall => ?_)
    obtain ⟨q, hq, hidq⟩ := mem_allIds.1 hall
    exact Finset.disjoint_left.1 (hfirst q hq) hid hidq

theorem forall₂_unfolds {parts : List Part} (h : ∀ p ∈ parts, p.Sound e) :
    List.Forall₂ e.Unfolds (parts.map slot) (parts.map value) := by
  rw [List.forall₂_map_left_iff, List.forall₂_map_right_iff, List.forall₂_same]
  exact fun p hp => (h p hp).unfolds

/-- A part whose containers have been added between two encoders. -/
structure Added (p : Part) (e e' : Encoder) : Prop where
  extends_empty : e.Extends ∅ e'
  sound : p.Sound e'
  fresh : ∀ id ∈ p.ids, e.containers.size ≤ id ∧ id < e'.containers.size

theorem added_value (v : Value) (h : e.Extends ∅ e') : Added ⟨.value v, ∅, v⟩ e e' where
  extends_empty := h
  sound := sound_value v
  fresh id hid := absurd hid (Finset.notMem_empty id)

end Part

namespace Encoder

/-- A container whose slots are parts that reach different containers, from number `first` on and without itself. -/
structure Composed (e : Encoder) (first id : Nat) (c : Container) (parts : List Part) : Prop where
  get : e.containers[id]? = some c
  first_le : first ≤ id
  slots : c.slots = parts.map Part.slot
  sound : ∀ p ∈ parts, p.Sound e
  fresh : ∀ p ∈ parts, ∀ i ∈ p.ids, first ≤ i ∧ i < e.containers.size ∧ i ≠ id
  disjoint : parts.Pairwise fun p q => Disjoint p.ids q.ids

section

variable {e e' : Encoder} {first id : Nat} {c c' : Container} {p : Part} {parts parts' : List Part}

theorem Composed.lt (h : e.Composed first id c parts) : id < e.containers.size :=
  (Array.getElem?_eq_some_iff.1 h.get).1

theorem composed_allocate (hslots : c.slots = []) (hfirst : first ≤ e.containers.size) :
    (e.allocate c).2.Composed first (e.allocate c).1 c [] where
  get := Array.getElem?_push_size
  first_le := hfirst
  slots := hslots
  sound := List.forall_mem_nil _
  fresh := List.forall_mem_nil _
  disjoint := .nil

/-- Nothing changes for a container of parts when others are added. -/
theorem Composed.mono (h : e.Composed first id c parts) (hextends : e.Extends ∅ e') : e'.Composed first id c parts where
  get := (hextends.get_eq id h.lt (Finset.notMem_empty id)).trans h.get
  first_le := h.first_le
  slots := h.slots
  sound p hp := (h.sound p hp).congr fun i hi => hextends.get_eq i (h.fresh p hp i hi).2.1 (Finset.notMem_empty i)
  fresh p hp i hi := by
    obtain ⟨hle, hlt, hne⟩ := h.fresh p hp i hi
    exact ⟨hle, hlt.trans_le hextends.size_le, hne⟩
  disjoint := h.disjoint

/-- **A part with new containers goes into a container.** The slots of the container may be changed in any way, as
long as they are this one and some of those before. -/
theorem Composed.attach (h : e.Composed first id c parts) (hp : p.Added e e') (hslots : c'.slots = parts'.map Part.slot)
    (hmem : ∀ q ∈ parts', q = p ∨ q ∈ parts)
    (hdisjoint : (∀ q ∈ parts, Disjoint q.ids p.ids) → parts'.Pairwise fun p q => Disjoint p.ids q.ids) :
    (e'.replace id c').Composed first id c' parts' ∧ e.Extends {id} (e'.replace id c') := by
  have h' : e'.Composed first id c parts := h.mono hp.extends_empty
  -- the containers of all parts are others than the one that is written to
  have hids : ∀ q ∈ parts', q.Sound e' ∧ ∀ i ∈ q.ids, first ≤ i ∧ i < e'.containers.size ∧ i ≠ id := by
    intro q hq
    obtain rfl | hq := hmem q hq
    · refine ⟨hp.sound, fun i hi => ?_⟩
      obtain ⟨hle, hlt⟩ := hp.fresh i hi
      exact ⟨(h.first_le.trans h.lt.le).trans hle, hlt, Nat.ne_of_gt (h.lt.trans_le hle)⟩
    · exact ⟨h'.sound q hq, h'.fresh q hq⟩
  have hget {i : Nat} (hi : i ≠ id) : (e'.replace id c').containers[i]? = e'.containers[i]? := by
    rw [containers_replace c' h'.lt, if_neg (Ne.symm hi)]
  have hsize : (e'.replace id c').containers.size = e'.containers.size := Array.size_setIfInBounds
  refine ⟨⟨?get, h.first_le, hslots, ?sound, ?fresh, hdisjoint ?disjoint⟩,
    (hp.extends_empty.mono (Finset.empty_subset _)).trans (extends_replace id c' e')⟩
  case get => rw [containers_replace c' h'.lt, if_pos rfl]
  case sound =>
    intro q hq
    obtain ⟨hsound, hfresh⟩ := hids q hq
    exact hsound.congr fun i hi => hget (hfresh i hi).2.2
  case fresh =>
    intro q hq
    rw [hsize]
    exact (hids q hq).2
  case disjoint =>
    intro q hq
    refine Finset.disjoint_left.2 fun i hi hi' => ?_
    exact Nat.not_le.2 (h.fresh q hq i hi).2.1 (hp.fresh i hi').1

theorem Composed.push {items : Array Slot} (h : e.Composed first id (.array items) parts) (hp : p.Added e e') :
    ∃ e'', e'.push id p.slot = .ok e'' ∧ e.Extends {id} e'' ∧
      e''.Composed first id (.array (items.push p.slot)) (parts ++ [p]) := by
  have hget : e'.containers[id]? = some (.array items) :=
    (hp.extends_empty.get_eq id h.lt (Finset.notMem_empty id)).trans h.get
  have hslots : Container.slots (.array (items.push p.slot)) = (parts ++ [p]).map Part.slot := by
    rw [Container.slots, Array.toList_push, List.map_append, ← h.slots]
    rfl
  obtain ⟨hcomposed, hextends⟩ := h.attach hp hslots
    (fun q hq => (List.mem_append.1 hq).symm.imp_left List.mem_singleton.1)
    (fun hnew => List.pairwise_append.2 ⟨h.disjoint, List.pairwise_singleton _ p, fun q hq q' hq' => by
      rw [List.mem_singleton.1 hq']
      exact hnew q hq⟩)
  refine ⟨_, ?_, hextends, hcomposed⟩
  rw [Encoder.push, hget]

def objectOf (entries : List (String × Part)) : Container :=
  .object (entries.map fun e => (e.1, e.2.slot))

theorem composed_beginArray (e : Encoder) :
    e.beginArray.2.Composed e.containers.size e.containers.size (.array #[]) [] :=
  composed_allocate rfl (Nat.le_refl _)

theorem composed_beginObject (e : Encoder) :
    e.beginObject.2.Composed e.containers.size e.containers.size (objectOf []) [] :=
  composed_allocate rfl (Nat.le_refl _)

/-- A part goes to its place in an object, where it may put another one out. -/
theorem Composed.insert {entries : List (String × Part)} (key : String)
    (h : e.Composed first id (objectOf entries) (entries.map Prod.snd)) (hp : p.Added e e') :
    ∃ e'', e'.insert id key p.slot = .ok e'' ∧ e.Extends {id} e'' ∧
      e''.Composed first id (objectOf (Entries.insert key p entries))
        ((Entries.insert key p entries).map Prod.snd) := by
  have hget : e'.containers[id]? = some (objectOf entries) :=
    (hp.extends_empty.get_eq id h.lt (Finset.notMem_empty id)).trans h.get
  have hslots (entries : List (String × Part)) : (objectOf entries).slots = (entries.map Prod.snd).map Part.slot := by
    rw [objectOf, Container.slots, List.map_map, List.map_map]
    rfl
  obtain ⟨hcomposed, hextends⟩ := h.attach hp (hslots (Entries.insert key p entries))
    (fun q hq => by
      obtain ⟨entry, hentry, rfl⟩ := List.mem_map.1 hq
      obtain rfl | hentry := Entries.mem_insert hentry
      · exact .inl rfl
      · exact .inr (List.mem_map_of_mem hentry))
    (fun hnew => Entries.pairwise_insert (fun hpq => hpq.symm) h.disjoint fun entry hentry =>
      hnew entry.2 (List.mem_map_of_mem hentry))
  refine ⟨_, ?_, hextends, hcomposed⟩
  rw [Encoder.insert, hget, objectOf, objectOf, ← Entries.insert_map Part.slot]

/-- **A container of parts is a part itself.** -/
theorem Composed.close (h : e.Composed first id c parts) :
    Part.Sound ⟨.container id, Insert.insert id (Part.allIds parts), c.fill (parts.map Part.value)⟩ e ∧
      ∀ i ∈ Insert.insert id (Part.allIds parts), first ≤ i ∧ i < e.containers.size := by
  refine ⟨⟨?once, ?unfolds⟩, ?fresh⟩
  case once =>
    refine onceEach_container h.get ?_ fun hmem => ?_
    · rw [h.slots]
      exact Part.onceEach_allIds h.sound h.disjoint
    · obtain ⟨p, hp, hid⟩ := Part.mem_allIds.1 hmem
      exact (h.fresh p hp id hid).2.2 rfl
  case unfolds =>
    refine .container h.get ?_
    rw [h.slots]
    exact Part.forall₂_unfolds h.sound
  case fresh =>
    intro i hi
    obtain rfl | hi := Finset.mem_insert.1 hi
    · exact ⟨h.first_le, h.lt⟩
    · obtain ⟨p, hp, hip⟩ := Part.mem_allIds.1 hi
      obtain ⟨hle, hlt, -⟩ := h.fresh p hp i hip
      exact ⟨hle, hlt⟩

theorem added_wrapper {outer : Nat} {name : String} (hextends : e.Extends ∅ e') (hp : p.Sound e')
    (hget : e'.containers[outer]? = some (.object [(name, p.slot)])) (houter : e.containers.size ≤ outer)
    (hfresh : ∀ i ∈ p.ids, e.containers.size ≤ i ∧ i < e'.containers.size ∧ i ≠ outer) :
    Part.Added ⟨.container outer, Insert.insert outer (Part.allIds [p]), .object [(name, p.value)]⟩ e e' := by
  have hcomposed : e'.Composed e.containers.size outer (objectOf [(name, p)]) [p] :=
    ⟨hget, houter, rfl, List.forall_mem_singleton.2 hp, List.forall_mem_singleton.2 hfresh, List.pairwise_singleton _ p⟩
  obtain ⟨hsound, hids⟩ := hcomposed.close
  exact ⟨hextends, hsound, hids⟩

/-- An object can be put around a part. -/
theorem insert_allocate (hp : p.Added e e') (name : String) :
    ∃ e'', e'.beginObject.2.insert e'.containers.size name p.slot = .ok e'' ∧
      Part.Added ⟨.container e'.containers.size, Insert.insert e'.containers.size (Part.allIds [p]),
        .object [(name, p.value)]⟩ e e'' := by
  have hnew := composed_beginObject e'
  have hextends : e'.Extends ∅ e'.beginObject.2 := extends_allocate (.object []) e'
  have hget {i : Nat} (hi : i < e'.containers.size) :
      (e'.beginObject.2.replace e'.containers.size (.object [(name, p.slot)])).containers[i]? = e'.containers[i]? := by
    rw [containers_replace _ hnew.lt, if_neg (Nat.ne_of_gt hi)]
    exact hextends.get_eq i hi (Finset.notMem_empty i)
  have hsize : (e'.beginObject.2.replace e'.containers.size (.object [(name, p.slot)])).containers.size =
      e'.beginObject.2.containers.size := Array.size_setIfInBounds
  refine ⟨_, ?_, added_wrapper (hp.extends_empty.trans (hextends.trans_of_le (extends_replace _ _ _) fun i hi =>
    (Finset.mem_singleton.1 hi).ge)) (hp.sound.congr fun i hi => hget (hp.fresh i hi).2) ?_
    hp.extends_empty.size_le fun i hi => ?_⟩
  · rw [Encoder.insert, hnew.get]
    rfl
  · rw [containers_replace _ hnew.lt, if_pos rfl]
  · obtain ⟨hle, hlt⟩ := hp.fresh i hi
    exact ⟨hle, hsize ▸ hlt.trans hnew.lt, Nat.ne_of_lt hlt⟩

/-- An empty container can be attached to a new object right away. -/
theorem attach_allocate (hslots : c.slots = []) (name : String) (e : Encoder) :
    ∃ e', attach e.containers.size name ((e.allocate (.object [])).2.allocate c) = (.ok (e.containers.size + 1), e') ∧
      e'.containers[e.containers.size]? = some (.object [(name, .container (e.containers.size + 1))]) ∧
      e'.Composed (e.containers.size + 1) (e.containers.size + 1) c [] ∧ e.Extends ∅ e' := by
  have hsize : (e.allocate (.object [])).2.containers.size = e.containers.size + 1 := Array.size_push _
  have hinner : ((e.allocate (.object [])).2.allocate c).2.Composed (e.containers.size + 1)
      (e.containers.size + 1) c [] := by
    rw [← hsize]
    exact composed_allocate hslots (Nat.le_refl _)
  have hextends : e.Extends ∅ ((e.allocate (.object [])).2.allocate c).2 :=
    (extends_allocate _ e).trans (extends_allocate c _)
  have houter : ((e.allocate (.object [])).2.allocate c).2.containers[e.containers.size]? = some (.object []) := by
    rw [(extends_allocate c _).get_eq _ (by rw [hsize]; exact Nat.lt_succ_self _) (Finset.notMem_empty _)]
    exact Array.getElem?_push_size
  have hlt : e.containers.size < ((e.allocate (.object [])).2.allocate c).2.containers.size :=
    (Nat.lt_succ_self _).trans hinner.lt
  -- only the object is written to, and the new container stays as it is
  refine ⟨((e.allocate (.object [])).2.allocate c).2.replace e.containers.size
    (.object [(name, .container (e.containers.size + 1))]), ?_, ?_, ?_, ?_⟩
  · rw [Encoder.attach, Encoder.insert, houter, allocate, hsize]
    rfl
  · rw [containers_replace _ hlt, if_pos rfl]
  · refine ⟨?_, Nat.le_refl _, hslots, List.forall_mem_nil _, List.forall_mem_nil _, .nil⟩
    rw [containers_replace _ hlt, if_neg (Nat.ne_of_lt (Nat.lt_succ_self _))]
    exact hinner.get
  · exact hextends.trans_of_le (extends_replace _ _ _) fun i hi => (Finset.mem_singleton.1 hi).ge

end

end Encoder

end SqlFormula.Typed
