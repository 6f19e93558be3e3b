import Mathlib
import SqlFormula.Typed.Encoder

/-!
# Putting values together from containers

Containers refer to each other by number, so they form a graph of any kind: containers can be shared, refer to
themselves, or be missing. The value at a root is put together if the part of the graph below the root is a tree. It
is then the unfolding of that tree. Otherwise some container stands in the way that is missing or reached twice.

## Main definitions

- `Encoder.slotAt?` — the slot at the end of a path through the containers
- `Encoder.Reaches` — a path leads to a container
- `Encoder.IsTree` — all containers below a slot exist, and there is one path to each of them
- `Encoder.Unfolds` — the value of a slot as far as paths lead
- `Encoder.OnceEach`, `Encoder.Blocks` — whether the containers of a set can be taken one by one

## Main statements

- `Encoder.Unfolds.unique` — a slot unfolds to one value at most
- `Encoder.outcome_resolve` — what is put together, or what stands in the way
- `Encoder.resolve_add` — more levels than containers change nothing
- `Encoder.finish_eq_ok_iff`, `Encoder.reused_of_finish_eq_error` — both for a root
-/

namespace SqlFormula.Typed

/-- What a container holds, in order. -/
def Container.slots : Container → List Slot
  | .object entries => entries.map Prod.snd
  | .array items => items.toList

/-- The value of a container, given those of its slots. -/
def Container.fill : Container → List Value → Value
  | .object entries, vs => .object ((entries.map Prod.fst).zip vs)
  | .array _, vs => .array vs

namespace Encoder

/-- The slot at the end of a path, whose steps are places in containers. -/
def slotAt? (e : Encoder) : List Nat → Slot → Option Slot
  | [], slot => some slot
  | _ :: _, .value _ => none
  | i :: path, .container id =>
    match e.containers[id]? with
    | some c =>
      match c.slots[i]? with
      | some slot => slotAt? e path slot
      | none => none
    | none => none

/-- A path leads from a slot to a container, be it there or not. -/
def Reaches (e : Encoder) (slot : Slot) (path : List Nat) (id : Nat) : Prop :=
  e.slotAt? path slot = some (.container id)

/-- Two paths lead to one container. -/
def Twice (reaches : List Nat → Nat → Prop) (id : Nat) : Prop :=
  ∃ p q, p ≠ q ∧ reaches p id ∧ reaches q id

/-- All containers below a slot exist, and there is one path to each of them. -/
def IsTree (e : Encoder) (slot : Slot) : Prop :=
  ∀ path id, e.Reaches slot path id → id < e.containers.size ∧ ¬Twice (e.Reaches slot) id

/-- The value of a slot as far as paths lead: containers are replaced by what they hold. -/
inductive Unfolds (e : Encoder) : Slot → Value → Prop
  | value (v : Value) : Unfolds e (.value v) v
  | container {id : Nat} {c : Container} {vs : List Value} :
    e.containers[id]? = some c → List.Forall₂ (Unfolds e) c.slots vs → Unfolds e (.container id) (c.fill vs)

/-! ### Paths -/

section

variable {e : Encoder} {id id' i : Nat} {path : List Nat} {c : Container} {slot : Slot} {slots : List Slot}

theorem reaches_nil : e.Reaches slot [] id ↔ slot = .container id := by
  rw [Reaches, slotAt?, Option.some.injEq]

theorem not_reaches_value (v : Value) : ¬e.Reaches (.value v) path id := by
  cases path with
  | nil => exact fun h => Slot.noConfusion (reaches_nil.1 h)
  | cons i path => simp [Reaches, slotAt?]

/-- A path leads from one of several slots to a container; its first step is the place of the slot. -/
def ReachesAmong (e : Encoder) (slots : List Slot) (path : List Nat) (id : Nat) : Prop :=
  ∃ i rest slot, path = i :: rest ∧ slots[i]? = some slot ∧ e.Reaches slot rest id

theorem reaches_container (hc : e.containers[id]? = some c) :
    e.Reaches (.container id) path id' ↔ path = [] ∧ id' = id ∨ e.ReachesAmong c.slots path id' := by
  cases path with
  | nil =>
    rw [reaches_nil, Slot.container.injEq]
    constructor
    · exact fun h => .inl ⟨rfl, h.symm⟩
    · rintro (⟨-, h⟩ | ⟨i, rest, slot, h, -⟩)
      · exact h.symm
      · cases h
  | cons i path =>
    simp only [Reaches, slotAt?, hc]
    constructor
    · intro h
      cases hslot : c.slots[i]? with
      | none => simp [hslot] at h
      | some slot =>
        simp only [hslot] at h
        exact .inr ⟨i, path, slot, rfl, hslot, h⟩
    · rintro (⟨h, -⟩ | ⟨j, rest, slot, h, hslot, hreaches⟩)
      · cases h
      · obtain ⟨rfl, rfl⟩ := List.cons.inj h
        simp only [hslot]
        exact hreaches

theorem exists_cons_of_reachesAmong (h : e.ReachesAmong slots path id) : ∃ i rest, path = i :: rest := by
  obtain ⟨i, rest, -, hpath, -⟩ := h
  exact ⟨i, rest, hpath⟩

theorem not_reachesAmong_nil : ¬e.ReachesAmong [] path id := by
  rintro ⟨i, rest, slot, -, h, -⟩
  simp at h

theorem reachesAmong_cons : e.ReachesAmong (slot :: slots) path id ↔
    (∃ rest, path = 0 :: rest ∧ e.Reaches slot rest id) ∨
      ∃ i rest, path = (i + 1) :: rest ∧ e.ReachesAmong slots (i :: rest) id := by
  constructor
  · rintro ⟨i, rest, slot', rfl, hslot, hreaches⟩
    cases i with
    | zero =>
      obtain rfl := Option.some.inj hslot
      exact .inl ⟨rest, rfl, hreaches⟩
    | succ i => exact .inr ⟨i, rest, rfl, i, rest, slot', rfl, hslot, hreaches⟩
  · rintro (⟨rest, rfl, hreaches⟩ | ⟨i, rest, rfl, j, rest', slot', h, hslot, hreaches⟩)
    · exact ⟨0, rest, slot, rfl, rfl, hreaches⟩
    · obtain ⟨rfl, rfl⟩ := List.cons.inj h
      exact ⟨i + 1, rest, slot', rfl, hslot, hreaches⟩

end

/-! ### Containers reached once each -/

/-- Paths lead to the containers of a set, and one path to each. -/
structure OnceEach (reaches : List Nat → Nat → Prop) (ids : Finset Nat) : Prop where
  mem_iff : ∀ id, id ∈ ids ↔ ∃ path, reaches path id
  once : ∀ id, ¬Twice reaches id

/-- A container that is reached, but is not at hand or is reached twice. -/
def Blocks (reaches : List Nat → Nat → Prop) (available : Finset Nat) (id : Nat) : Prop :=
  (∃ path, reaches path id) ∧ (id ∉ available ∨ Twice reaches id)

section

variable {e : Encoder} {id : Nat} {c : Container} {slot : Slot} {slots : List Slot} {ids ids' available : Finset Nat}

theorem onceEach_value (v : Value) : OnceEach (e.Reaches (.value v)) ∅ where
  mem_iff id := by simpa using fun path => not_reaches_value v
  once id := by
    rintro ⟨p, -, -, hp, -⟩
    exact not_reaches_value v hp

theorem onceEach_nil : OnceEach (e.ReachesAmong []) ∅ where
  mem_iff id := by simpa using fun path => not_reachesAmong_nil
  once id := by
    rintro ⟨p, -, -, hp, -⟩
    exact not_reachesAmong_nil hp

/-- Slots that reach different containers reach each once together. -/
theorem onceEach_cons (h : OnceEach (e.Reaches slot) ids) (hs : OnceEach (e.ReachesAmong slots) ids')
    (hdisjoint : Disjoint ids ids') : OnceEach (e.ReachesAmong (slot :: slots)) (ids ∪ ids') where
  mem_iff id := by
    rw [Finset.mem_union, h.mem_iff, hs.mem_iff]
    constructor
    · rintro (⟨path, hpath⟩ | ⟨path, hpath⟩)
      · exact ⟨0 :: path, reachesAmong_cons.2 (.inl ⟨path, rfl, hpath⟩)⟩
      · obtain ⟨i, rest, rfl⟩ := exists_cons_of_reachesAmong hpath
        exact ⟨(i + 1) :: rest, reachesAmong_cons.2 (.inr ⟨i, rest, rfl, hpath⟩)⟩
    · rintro ⟨path, hpath⟩
      obtain ⟨rest, -, hfirst⟩ | ⟨i, rest, -, hother⟩ := reachesAmong_cons.1 hpath
      · exact .inl ⟨rest, hfirst⟩
      · exact .inr ⟨i :: rest, hother⟩
  once id := by
    rintro ⟨p, q, hne, hp, hq⟩
    have hnot (hfirst : ∃ path, e.Reaches slot path id) (hother : ∃ path, e.ReachesAmong slots path id) : False :=
      Finset.disjoint_left.1 hdisjoint ((h.mem_iff id).2 hfirst) ((hs.mem_iff id).2 hother)
    -- both paths begin at the first slot, both at others, or one each; the last is against the sets
    obtain ⟨p, rfl, hp'⟩ | ⟨i, p, rfl, hp'⟩ := reachesAmong_cons.1 hp <;>
      obtain ⟨q, rfl, hq'⟩ | ⟨j, q, rfl, hq'⟩ := reachesAmong_cons.1 hq
    · exact h.once id ⟨p, q, fun heq => hne (by rw [heq]), hp', hq'⟩
    · exact hnot ⟨p, hp'⟩ ⟨j :: q, hq'⟩
    · exact hnot ⟨q, hq'⟩ ⟨i :: p, hp'⟩
    · refine hs.once id ⟨i :: p, j :: q, fun heq => hne ?_, hp', hq'⟩
      obtain ⟨rfl, rfl⟩ := List.cons.inj heq
      rfl

/-- A container that its own slots do not reach is reached once together with what they reach. -/
theorem onceEach_container (hc : e.containers[id]? = some c) (h : OnceEach (e.ReachesAmong c.slots) ids)
    (hid : id ∉ ids) : OnceEach (e.Reaches (.container id)) (Insert.insert id ids) where
  mem_iff id' := by
    rw [Finset.mem_insert, h.mem_iff]
    constructor
    · rintro (rfl | ⟨path, hpath⟩)
      · exact ⟨[], reaches_nil.2 rfl⟩
      · exact ⟨path, (reaches_container hc).2 (.inr hpath)⟩
    · rintro ⟨path, hpath⟩
      obtain ⟨-, rfl⟩ | hpath := (reaches_container hc).1 hpath
      · exact .inl rfl
      · exact .inr ⟨path, hpath⟩
  once id' := by
    rintro ⟨p, q, hne, hp, hq⟩
    have hnot {path : List Nat} (hpath : e.ReachesAmong c.slots path id) : False :=
      hid ((h.mem_iff id).2 ⟨path, hpath⟩)
    -- the path without steps ends at the container itself, and no other does
    obtain ⟨rfl, hpid⟩ | hp' := (reaches_container hc).1 hp <;>
      obtain ⟨rfl, hqid⟩ | hq' := (reaches_container hc).1 hq
    · exact hne rfl
    · rw [hpid] at hq'
      exact hnot hq'
    · rw [hqid] at hp'
      exact hnot hp'
    · exact h.once id' ⟨p, q, hne, hp', hq'⟩

theorem blocks_cons_first (h : Blocks (e.Reaches slot) available id) :
    Blocks (e.ReachesAmong (slot :: slots)) available id := by
  have hlift {path : List Nat} (hpath : e.Reaches slot path id) : e.ReachesAmong (slot :: slots) (0 :: path) id :=
    reachesAmong_cons.2 (.inl ⟨path, rfl, hpath⟩)
  obtain ⟨⟨path, hpath⟩, hblocks⟩ := h
  refine ⟨⟨0 :: path, hlift hpath⟩, hblocks.imp_right ?_⟩
  rintro ⟨p, q, hne, hp, hq⟩
  exact ⟨0 :: p, 0 :: q, fun heq => hne (List.cons.inj heq).2, hlift hp, hlift hq⟩

/-- What blocks other slots once the first has taken its containers blocks all of them. -/
theorem blocks_cons_other (h : OnceEach (e.Reaches slot) ids)
    (hs : Blocks (e.ReachesAmong slots) (available \ ids) id) :
    Blocks (e.ReachesAmong (slot :: slots)) available id := by
  have hlift {path : List Nat} (hpath : e.ReachesAmong slots path id) :
      ∃ i rest, path = i :: rest ∧ e.ReachesAmong (slot :: slots) ((i + 1) :: rest) id := by
    obtain ⟨i, rest, rfl⟩ := exists_cons_of_reachesAmong hpath
    exact ⟨i, rest, rfl, reachesAmong_cons.2 (.inr ⟨i, rest, rfl, hpath⟩)⟩
  obtain ⟨⟨path, hpath⟩, hblocks⟩ := hs
  obtain ⟨i, rest, -, hreaches⟩ := hlift hpath
  refine ⟨⟨(i + 1) :: rest, hreaches⟩, ?_⟩
  obtain hmissing | ⟨p, q, hne, hp, hq⟩ := hblocks
  · -- not at hand any more: it was not from the beginning, or the first slot has reached it too
    by_cases hid : id ∈ ids
    · obtain ⟨first, hfirst⟩ := (h.mem_iff id).1 hid
      have hzero : e.ReachesAmong (slot :: slots) (0 :: first) id := reachesAmong_cons.2 (.inl ⟨first, rfl, hfirst⟩)
      exact .inr ⟨0 :: first, (i + 1) :: rest, nofun, hzero, hreaches⟩
    · exact .inl fun hmem => hmissing (Finset.mem_sdiff.2 ⟨hmem, hid⟩)
  · obtain ⟨j, p, rfl, hp'⟩ := hlift hp
    obtain ⟨k, q, rfl, hq'⟩ := hlift hq
    refine .inr ⟨(j + 1) :: p, (k + 1) :: q, fun heq => hne ?_, hp', hq'⟩
    obtain ⟨hjk, rfl⟩ := List.cons.inj heq
    rw [Nat.succ.inj hjk]

/-- What blocks the slots of a container once that is taken blocks the container. -/
theorem blocks_container {id' : Nat} (hc : e.containers[id]? = some c)
    (h : Blocks (e.ReachesAmong c.slots) (available.erase id) id') :
    Blocks (e.Reaches (.container id)) available id' := by
  have hlift {path : List Nat} (hpath : e.ReachesAmong c.slots path id') : e.Reaches (.container id) path id' :=
    (reaches_container hc).2 (.inr hpath)
  obtain ⟨⟨path, hpath⟩, hblocks⟩ := h
  refine ⟨⟨path, hlift hpath⟩, ?_⟩
  -- what is taken by now is the container itself, to which the path without steps leads too
  obtain hmissing | ⟨p, q, hne, hp, hq⟩ := hblocks
  · by_cases hself : id' = id
    · subst hself
      obtain ⟨i, rest, rfl⟩ := exists_cons_of_reachesAmong hpath
      exact .inr ⟨[], i :: rest, nofun, reaches_nil.2 rfl, hlift hpath⟩
    · exact .inl fun hmem => hmissing (Finset.mem_erase.2 ⟨hself, hmem⟩)
  · exact .inr ⟨p, q, hne, hlift hp, hlift hq⟩

end

/-! ### Values put together -/

/-- The entries of an object are put together as the items of an array are. -/
theorem resolveEntries_eq (resolve : Slot → Resolution Value) (entries : List (String × Slot)) (remaining : Remaining) :
    resolveEntries resolve entries remaining =
      (resolveItems resolve (entries.map Prod.snd) remaining).map fun result =>
        ((entries.map Prod.fst).zip result.1, result.2) := by
  induction entries generalizing remaining with
  | nil => rfl
  | cons entry entries ih =>
    obtain ⟨key, slot⟩ := entry
    rw [resolveEntries, List.map_cons, List.map_cons, resolveItems]
    cases resolve slot remaining with
    | error e => rfl
    | ok result =>
      simp only [bind, Except.bind, ih]
      cases resolveItems resolve (entries.map Prod.snd) result.2 with
      | error e => rfl
      | ok rest => rfl

theorem resolveContainer_eq (resolve : Slot → Resolution Value) (c : Container) (remaining : Remaining) :
    resolveContainer resolve c remaining =
      (resolveItems resolve c.slots remaining).map fun result => (c.fill result.1, result.2) := by
  cases c with
  | object entries =>
    rw [resolveContainer, resolveEntries_eq]
    simp only [Container.slots]
    cases resolveItems resolve (entries.map Prod.snd) remaining with
    | error e => rfl
    | ok result => rfl
  | array items =>
    rw [resolveContainer, Container.slots]
    cases resolveItems resolve items.toList remaining with
    | error e => rfl
    | ok result => rfl

/-- What remains are the containers of a set, at their places. -/
structure Holds (e : Encoder) (available : Finset Nat) (remaining : Remaining) : Prop where
  allocated : ∀ id ∈ available, id < e.containers.size
  get_iff : ∀ id c, remaining[id]? = some (some c) ↔ id ∈ available ∧ e.containers[id]? = some c

theorem holds_all (e : Encoder) : e.Holds (Finset.range e.containers.size) (e.containers.map some) where
  allocated id hid := Finset.mem_range.1 hid
  get_iff id c := by
    rw [Array.getElem?_map, Finset.mem_range]
    constructor
    · intro h
      obtain ⟨c', hc, heq⟩ := Option.map_eq_some_iff.1 h
      obtain rfl := Option.some.inj heq
      exact ⟨(Array.getElem?_eq_some_iff.1 hc).1, hc⟩
    · rintro ⟨-, hc⟩
      rw [hc]
      rfl

theorem Holds.take {e : Encoder} {available : Finset Nat} {remaining : Remaining} (h : e.Holds available remaining)
    (id : Nat) : e.Holds (available.erase id) (remaining.setIfInBounds id none) where
  allocated id' hid' := h.allocated id' (Finset.mem_of_mem_erase hid')
  get_iff id' c := by
    rw [Array.getElem?_setIfInBounds, Finset.mem_erase]
    by_cases hid : id = id'
    · subst hid
      simp
    · rw [if_neg hid, h.get_iff]
      exact ⟨fun ⟨hmem, hc⟩ => ⟨⟨Ne.symm hid, hmem⟩, hc⟩, fun ⟨⟨_, hmem⟩, hc⟩ => ⟨hmem, hc⟩⟩

/-- What may become of a slot while some containers remain: it unfolds to a value, taking the containers that it
reaches; or it is blocked by one. -/
def Outcome (e : Encoder) (available : Finset Nat) (slot : Slot) (result : Except EncodeError (Value × Remaining)) :
    Prop :=
  (∃ v remaining ids, result = .ok (v, remaining) ∧ e.Unfolds slot v ∧ OnceEach (e.Reaches slot) ids ∧
      ids ⊆ available ∧ e.Holds (available \ ids) remaining) ∨
    ∃ id, result = .error (.reused id) ∧ Blocks (e.Reaches slot) available id

def OutcomeAmong (e : Encoder) (available : Finset Nat) (slots : List Slot)
    (result : Except EncodeError (List Value × Remaining)) : Prop :=
  (∃ vs remaining ids, result = .ok (vs, remaining) ∧ List.Forall₂ e.Unfolds slots vs ∧
      OnceEach (e.ReachesAmong slots) ids ∧ ids ⊆ available ∧ e.Holds (available \ ids) remaining) ∨
    ∃ id, result = .error (.reused id) ∧ Blocks (e.ReachesAmong slots) available id

section

variable {e : Encoder} {available : Finset Nat} {remaining : Remaining}

/-- Slots are put together one after the other, each from what the ones before have left. -/
theorem outcome_resolveItems {resolve : Slot → Resolution Value} {level : Nat}
    (h : ∀ available remaining slot, e.Holds available remaining → available.card ≤ level →
      e.Outcome available slot (resolve slot remaining))
    (slots : List Slot) (hholds : e.Holds available remaining) (hlevel : available.card ≤ level) :
    e.OutcomeAmong available slots (resolveItems resolve slots remaining) := by
  induction slots generalizing available remaining with
  | nil =>
    refine .inl ⟨[], remaining, ∅, rfl, .nil, onceEach_nil, Finset.empty_subset _, ?_⟩
    rw [Finset.sdiff_empty]
    exact hholds
  | cons slot slots ih =>
    obtain ⟨v, remaining', ids, hresult, hunfolds, honce, hsubset, hholds'⟩ | ⟨id, hresult, hblocks⟩ :=
      h available remaining slot hholds hlevel
    · -- the others are put together from what the first has left
      have hcard : (available \ ids).card ≤ level := (Finset.card_le_card Finset.sdiff_subset).trans hlevel
      obtain ⟨vs, remaining'', ids', hresults, hunfolds', honce', hsubset', hholds''⟩ | ⟨id, hresults, hblocks⟩ :=
        ih hholds' hcard
      · refine .inl ⟨v :: vs, remaining'', ids ∪ ids', ?_, .cons hunfolds hunfolds', ?_, ?_, ?_⟩
        · rw [resolveItems, hresult]
          simp only [bind, Except.bind, hresults]
          rfl
        · exact onceEach_cons honce honce' (Finset.disjoint_of_subset_right hsubset' Finset.disjoint_sdiff)
        · exact Finset.union_subset hsubset (hsubset'.trans Finset.sdiff_subset)
        · rw [← Finset.sup_eq_union, ← sdiff_sdiff_left]
          exact hholds''
      · refine .inr ⟨id, ?_, blocks_cons_other honce hblocks⟩
        rw [resolveItems, hresult]
        simp only [bind, Except.bind, hresults]
    · refine .inr ⟨id, ?_, blocks_cons_first hblocks⟩
      rw [resolveItems, hresult]
      rfl

theorem outcome_value (v : Value) (hholds : e.Holds available remaining) :
    e.Outcome available (.value v) (.ok (v, remaining)) := by
  refine .inl ⟨v, remaining, ∅, rfl, .value v, onceEach_value v, Finset.empty_subset _, ?_⟩
  rw [Finset.sdiff_empty]
  exact hholds

theorem outcome_missing {id : Nat} (hid : id ∉ available) :
    e.Outcome available (.container id) (.error (.reused id)) :=
  .inr ⟨id, rfl, ⟨[], reaches_nil.2 rfl⟩, .inl hid⟩

theorem outcome_container {id : Nat} {c : Container} {result : Except EncodeError (List Value × Remaining)}
    (hid : id ∈ available) (hc : e.containers[id]? = some c) (h : e.OutcomeAmong (available.erase id) c.slots result) :
    e.Outcome available (.container id) (result.map fun r => (c.fill r.1, r.2)) := by
  obtain ⟨vs, remaining, ids, rfl, hunfolds, honce, hsubset, hholds⟩ | ⟨id', rfl, hblocks⟩ := h
  · have hnot : id ∉ ids := fun hmem => Finset.notMem_erase id available (hsubset hmem)
    refine .inl ⟨c.fill vs, remaining, Insert.insert id ids, rfl, .container hc hunfolds,
      onceEach_container hc honce hnot, ?_, ?_⟩
    · exact Finset.insert_subset hid (hsubset.trans (Finset.erase_subset id available))
    · rw [Finset.sdiff_insert, ← Finset.erase_sdiff_comm]
      exact hholds
  · exact .inr ⟨id', rfl, blocks_container hc hblocks⟩

/-- **What is put together, or what stands in the way.** There are enough levels for the containers that remain. -/
theorem outcome_resolve (e : Encoder) (level : Nat) : ∀ available remaining slot, e.Holds available remaining →
    available.card ≤ level → e.Outcome available slot (resolve level slot remaining) := by
  induction level with
  | zero =>
    intro available remaining slot hholds hlevel
    cases slot with
    | value v => exact outcome_value v hholds
    | container id =>
      have hempty := Finset.card_eq_zero.1 (Nat.le_zero.1 hlevel)
      exact outcome_missing (by rw [hempty]; exact Finset.notMem_empty id)
  | succ level ih =>
    intro available remaining slot hholds hlevel
    cases slot with
    | value v => exact outcome_value v hholds
    | container id =>
      by_cases hid : id ∈ available
      -- taking the container costs one level, and leaves one container less
      · obtain ⟨c, hc⟩ : ∃ c, e.containers[id]? = some c := ⟨_, Array.getElem?_eq_getElem (hholds.allocated id hid)⟩
        have hget := (hholds.get_iff id c).2 ⟨hid, hc⟩
        have hcard : (available.erase id).card ≤ level := by
          rw [Finset.card_erase_of_mem hid]
          omega
        simp only [resolve, hget]
        rw [resolveContainer_eq]
        exact outcome_container hid hc (outcome_resolveItems ih c.slots (hholds.take id) hcard)
      · have hmissing : resolve (level + 1) (.container id) remaining = .error (.reused id) := by
          rw [resolve]
          split
          · next c hget => exact absurd ((hholds.get_iff id c).1 hget).1 hid
          · rfl
        rw [hmissing]
        exact outcome_missing hid

/-- Slots are put together alike if each of them is. -/
theorem resolveItems_congr {level level' : Nat}
    (h : ∀ available remaining slot, e.Holds available remaining → available.card ≤ level →
      resolve level' slot remaining = resolve level slot remaining)
    (slots : List Slot) (hholds : e.Holds available remaining) (hlevel : available.card ≤ level) :
    resolveItems (resolve level') slots remaining = resolveItems (resolve level) slots remaining := by
  induction slots generalizing available remaining with
  | nil => rfl
  | cons slot slots ih =>
    rw [resolveItems, resolveItems, h available remaining slot hholds hlevel]
    obtain ⟨v, remaining', ids, hresult, -, -, -, hholds'⟩ | ⟨id, hresult, -⟩ :=
      outcome_resolve e level available remaining slot hholds hlevel
    · have hcard : (available \ ids).card ≤ level := (Finset.card_le_card Finset.sdiff_subset).trans hlevel
      rw [hresult]
      simp only [bind, Except.bind, ih hholds' hcard]
    · rw [hresult]
      rfl

/-- More levels than containers remain change nothing. -/
theorem resolve_add (extra level : Nat) : ∀ available remaining slot, e.Holds available remaining →
    available.card ≤ level → resolve (level + extra) slot remaining = resolve level slot remaining := by
  induction level with
  | zero =>
    intro available remaining slot hholds hlevel
    have hempty := Finset.card_eq_zero.1 (Nat.le_zero.1 hlevel)
    cases slot with
    | value v => rw [resolve, resolve]
    | container id =>
      cases extra with
      | zero => rfl
      | succ extra =>
        -- no container remains, so more levels find none either
        rw [Nat.zero_add, resolve, resolve]
        split
        · next c hget => exact absurd ((hholds.get_iff id c).1 hget).1 (by rw [hempty]; exact Finset.notMem_empty id)
        · rfl
  | succ level ih =>
    intro available remaining slot hholds hlevel
    cases slot with
    | value v => rw [resolve, resolve]
    | container id =>
      rw [Nat.succ_add, resolve, resolve]
      split
      · next c hget =>
        have hcard : (available.erase id).card ≤ level := by
          rw [Finset.card_erase_of_mem ((hholds.get_iff id c).1 hget).1]
          omega
        rw [resolveContainer_eq, resolveContainer_eq, resolveItems_congr ih c.slots (hholds.take id) hcard]
      · rfl

end

/-- A slot unfolds to one value at most. -/
theorem Unfolds.unique {e : Encoder} {slot : Slot} {v w : Value} (hv : e.Unfolds slot v) (hw : e.Unfolds slot w) :
    v = w := by
  -- along the derivation of the one value, with all slots of a container at once
  refine @Unfolds.rec e (fun slot v _ => ∀ w, e.Unfolds slot w → v = w)
    (fun slots vs _ => ∀ ws, List.Forall₂ e.Unfolds slots ws → vs = ws) ?value ?container ?nil ?cons slot v hv w hw
  case value =>
    rintro v w ⟨⟩
    rfl
  case container =>
    rintro id c vs hc - ih w hw
    cases hw with
    | container hc' hslots =>
      obtain rfl := Option.some.inj (hc.symm.trans hc')
      rw [ih _ hslots]
  case nil =>
    rintro ws ⟨⟩
    rfl
  case cons =>
    rintro slot v slots vs - - ih ihs ws hws
    cases hws with
    | cons hw hws => rw [ih _ hw, ihs _ hws]

/-! ### Roots -/

theorem not_isTree_of_blocks {e : Encoder} {slot : Slot} {id : Nat}
    (h : Blocks (e.Reaches slot) (Finset.range e.containers.size) id) : ¬e.IsTree slot := by
  intro htree
  obtain ⟨⟨path, hpath⟩, hmissing | htwice⟩ := h
  · exact hmissing (Finset.mem_range.2 (htree path id hpath).1)
  · exact (htree path id hpath).2 htwice

theorem isTree_of_onceEach {e : Encoder} {slot : Slot} {ids : Finset Nat} (h : OnceEach (e.Reaches slot) ids)
    (hsubset : ids ⊆ Finset.range e.containers.size) : e.IsTree slot := fun path id hpath =>
  ⟨Finset.mem_range.1 (hsubset ((h.mem_iff id).2 ⟨path, hpath⟩)), h.once id⟩

theorem outcome_finish (e : Encoder) (root : Slot) :
    (∃ v, e.finish root = .ok v ∧ e.Unfolds root v ∧ e.IsTree root) ∨
      ∃ id, e.finish root = .error (.reused id) ∧ ¬e.IsTree root ∧
        Blocks (e.Reaches root) (Finset.range e.containers.size) id := by
  obtain ⟨v, remaining, ids, hresult, hunfolds, honce, hsubset, -⟩ | ⟨id, hresult, hblocks⟩ :=
    outcome_resolve e e.containers.size _ _ root (holds_all e) (by rw [Finset.card_range])
  · refine .inl ⟨v, ?_, hunfolds, isTree_of_onceEach honce hsubset⟩
    rw [finish, hresult]
    rfl
  · refine .inr ⟨id, ?_, not_isTree_of_blocks hblocks, hblocks⟩
    rw [finish, hresult]
    rfl

/-- **A tree of containers is put together to its unfolding.** -/
theorem finish_of_isTree {e : Encoder} {root : Slot} (h : e.IsTree root) :
    ∃ v, e.finish root = .ok v ∧ e.Unfolds root v := by
  obtain ⟨v, hfinish, hunfolds, -⟩ | ⟨id, -, hnot, -⟩ := outcome_finish e root
  · exact ⟨v, hfinish, hunfolds⟩
  · exact absurd h hnot

/-- **Exactly trees are put together,** and to nothing but their unfoldings. -/
theorem finish_eq_ok_iff {e : Encoder} {root : Slot} {v : Value} :
    e.finish root = .ok v ↔ e.IsTree root ∧ e.Unfolds root v := by
  constructor
  · intro h
    obtain ⟨w, hfinish, hw, htree⟩ | ⟨id, hfinish, -⟩ := outcome_finish e root
    · obtain rfl := Except.ok.inj (h.symm.trans hfinish)
      exact ⟨htree, hw⟩
    · nomatch h.symm.trans hfinish
  · rintro ⟨htree, hv⟩
    obtain ⟨w, hfinish, hw⟩ := finish_of_isTree htree
    rw [hfinish, hv.unique hw]

/-- **What is refused is no tree:** some container is reached that is missing or reached twice. -/
theorem reused_of_finish_eq_error {e : Encoder} {root : Slot} {error : EncodeError}
    (h : e.finish root = .error error) : ∃ id, error = .reused id ∧ (∃ path, e.Reaches root path id) ∧
      (e.containers.size ≤ id ∨ Twice (e.Reaches root) id) := by
  obtain ⟨v, hfinish, -⟩ | ⟨id, hfinish, -, hpath, hblocks⟩ := outcome_finish e root
  · nomatch h.symm.trans hfinish
  · rw [Finset.mem_range, Nat.not_lt] at hblocks
    exact ⟨id, Except.error.inj (h.symm.trans hfinish), hpath, hblocks⟩

/-- More levels than there are containers change nothing for a root. -/
theorem resolve_add_eq_finish (e : Encoder) (root : Slot) (extra : Nat) :
    (resolve (e.containers.size + extra) root (e.containers.map some)).map Prod.fst = e.finish root := by
  rw [resolve_add extra _ _ _ root (holds_all e) (by rw [Finset.card_range]), finish]

end Encoder

end SqlFormula.Typed
