import Mathlib
import SqlFormula.Proofs.Typed.Construction

/-!
# What containers refer to

Containers refer to others by number. A value is put together from those only to which references lead from its root;
whatever else happens to an encoder makes no difference to it, and none to the container in the way if there is one.

## Main definitions

- `Slot.ids` — the container of a slot, if it has one
- `Encoder.Refers` — a container refers to another one
- `Encoder.Closed` — containers that refer to each other only

## Main statements

- `Encoder.Closed.of_reaches` — paths do not leave them
- `Encoder.Closed.finish_eq` — what is put together from them depends on no others
-/

namespace SqlFormula.Typed

/-- The container of a slot, if it has one. -/
def Slot.ids : Slot → Finset Nat
  | .value _ => ∅
  | .container id => {id}

theorem Slot.mem_ids {slot : Slot} {id : Nat} : id ∈ slot.ids ↔ slot = .container id := by
  cases slot with
  | value v => exact ⟨fun h => absurd h (Finset.notMem_empty id), Slot.noConfusion⟩
  | container id' =>
    rw [Slot.ids, Finset.mem_singleton, Slot.container.injEq]
    exact eq_comm

namespace Encoder

/-- A container refers to another one, be that there or not. -/
def Refers (e : Encoder) (id id' : Nat) : Prop :=
  ∃ c, e.containers[id]? = some c ∧ .container id' ∈ c.slots

/-- Containers that refer to each other only. -/
def Closed (e : Encoder) (P : Nat → Prop) : Prop :=
  ∀ id id', P id → e.Refers id id' → P id'

section

variable {e e' : Encoder} {P : Nat → Prop} {id : Nat} {slot : Slot}

theorem lt_of_refers {id' : Nat} (h : e.Refers id id') : id < e.containers.size := by
  obtain ⟨c, hc, -⟩ := h
  exact (Array.getElem?_eq_some_iff.1 hc).1

/-- Paths do not leave containers that refer to each other only. -/
theorem Closed.of_reaches (h : e.Closed P) (hslot : ∀ id ∈ slot.ids, P id) {path : List Nat}
    (hpath : e.Reaches slot path id) : P id := by
  induction path generalizing slot with
  | nil => exact hslot id (Slot.mem_ids.2 (reaches_nil.1 hpath))
  | cons i path ih =>
    cases slot with
    | value v => exact absurd hpath (not_reaches_value v)
    | container id' =>
      have hid' : P id' := hslot id' (Finset.mem_singleton_self id')
      cases hc : e.containers[id']? with
      | none => simp [Reaches, slotAt?, hc] at hpath
      | some c =>
        obtain ⟨hnil, -⟩ | ⟨j, rest, slot, heq, hget, hrest⟩ := (reaches_container hc).1 hpath
        · cases hnil
        · obtain ⟨rfl, rfl⟩ := List.cons.inj heq
          refine ih (fun id'' hid'' => h id' id'' hid' ⟨c, hc, ?_⟩) hrest
          rw [← Slot.mem_ids.1 hid'']
          exact List.mem_of_getElem? hget

end

/-! ### Putting together -/

/-- What remains is the same as far as certain containers go, which refer to each other only. -/
structure Alike (P : Nat → Prop) (remaining remaining' : Remaining) : Prop where
  get_eq : ∀ id, P id → remaining'[id]? = remaining[id]?
  closed : ∀ id c, P id → remaining[id]? = some (some c) → ∀ id', .container id' ∈ c.slots → P id'

/-- The same has been put together and what remains is alike, or the same container is in the way. -/
def AlikeResults {α : Type} (P : Nat → Prop) (result result' : Except EncodeError (α × Remaining)) : Prop :=
  (∃ a remaining remaining', result = .ok (a, remaining) ∧ result' = .ok (a, remaining') ∧
      Alike P remaining remaining') ∨
    ∃ error, result = .error error ∧ result' = .error error

section

variable {P : Nat → Prop} {remaining remaining' : Remaining}

theorem Alike.take (h : Alike P remaining remaining') (id : Nat) :
    Alike P (remaining.setIfInBounds id none) (remaining'.setIfInBounds id none) where
  get_eq id' hid' := by
    rw [Array.getElem?_setIfInBounds, Array.getElem?_setIfInBounds]
    have hlt : id' < remaining'.size ↔ id' < remaining.size := by
      rw [← not_iff_not, Nat.not_lt, Nat.not_lt, ← Array.getElem?_eq_none_iff, ← Array.getElem?_eq_none_iff,
        h.get_eq id' hid']
    by_cases hid : id = id'
    · subst hid
      simp only [hlt, if_true]
    · rw [if_neg hid, if_neg hid, h.get_eq id' hid']
  closed id' c hid' hget := by
    rw [Array.getElem?_setIfInBounds] at hget
    by_cases hid : id = id'
    · simp [hid] at hget
    · rw [if_neg hid] at hget
      exact h.closed id' c hid' hget

theorem alikeResults_map {α β : Type} {result result' : Except EncodeError (α × Remaining)} (f : α → β)
    (h : AlikeResults P result result') :
    AlikeResults P (result.map fun r => (f r.1, r.2)) (result'.map fun r => (f r.1, r.2)) := by
  obtain ⟨a, remaining, remaining', rfl, rfl, halike⟩ | ⟨error, rfl, rfl⟩ := h
  · exact .inl ⟨f a, remaining, remaining', rfl, rfl, halike⟩
  · exact .inr ⟨error, rfl, rfl⟩

theorem alikeResults_resolveItems {resolve : Slot → Resolution Value}
    (h : ∀ slot remaining remaining', (∀ id ∈ slot.ids, P id) → Alike P remaining remaining' →
      AlikeResults P (resolve slot remaining) (resolve slot remaining'))
    (slots : List Slot) (hslots : ∀ id, .container id ∈ slots → P id) (halike : Alike P remaining remaining') :
    AlikeResults P (resolveItems resolve slots remaining) (resolveItems resolve slots remaining') := by
  induction slots generalizing remaining remaining' with
  | nil => exact .inl ⟨[], remaining, remaining', rfl, rfl, halike⟩
  | cons slot slots ih =>
    have hslot : ∀ id ∈ slot.ids, P id := fun id hid =>
      hslots id (Slot.mem_ids.1 hid ▸ List.mem_cons_self)
    rw [resolveItems, resolveItems]
    obtain ⟨v, rest, rest', hv, hv', hrest⟩ | ⟨error, herror, herror'⟩ := h slot _ _ hslot halike
    · rw [hv, hv']
      obtain ⟨vs, last, last', hvs, hvs', hlast⟩ | ⟨error, herror, herror'⟩ :=
        ih (fun id hid => hslots id (List.mem_cons_of_mem _ hid)) hrest
      · simp only [bind, Except.bind, hvs, hvs']
        exact .inl ⟨v :: vs, last, last', rfl, rfl, hlast⟩
      · simp only [bind, Except.bind, herror, herror']
        exact .inr ⟨error, rfl, rfl⟩
    · rw [herror, herror']
      exact .inr ⟨error, rfl, rfl⟩

theorem alikeResults_resolve (level : Nat) (slot : Slot) (remaining remaining' : Remaining)
    (hslot : ∀ id ∈ slot.ids, P id) (halike : Alike P remaining remaining') :
    AlikeResults P (resolve level slot remaining) (resolve level slot remaining') := by
  induction level generalizing slot remaining remaining' with
  | zero =>
    cases slot with
    | value v => exact .inl ⟨v, remaining, remaining', rfl, rfl, halike⟩
    | container id => exact .inr ⟨.reused id, rfl, rfl⟩
  | succ level ih =>
    cases slot with
    | value v => exact .inl ⟨v, remaining, remaining', rfl, rfl, halike⟩
    | container id =>
      have hid : P id := hslot id (Finset.mem_singleton_self id)
      rw [resolve, resolve, halike.get_eq id hid]
      split
      · next c hget =>
        rw [resolveContainer_eq, resolveContainer_eq]
        exact alikeResults_map c.fill
          (alikeResults_resolveItems ih c.slots (halike.closed id c hid hget) (halike.take id))
      · exact .inr ⟨.reused id, rfl, rfl⟩

/-- **What is put together depends on no containers but those to which references lead from the root,** and so does
the container in the way. -/
theorem Closed.finish_eq {e e' : Encoder} {root : Slot} (h : e.Closed P) (hroot : ∀ id ∈ root.ids, P id)
    (hsize : e.containers.size ≤ e'.containers.size) (hget : ∀ id, P id → e'.containers[id]? = e.containers[id]?) :
    e'.finish root = e.finish root := by
  have halike : Alike P (e.containers.map some) (e'.containers.map some) := by
    refine ⟨fun id hid => ?_, fun id c hid hc id' hid' => h id id' hid ⟨c, ?_, hid'⟩⟩
    · rw [Array.getElem?_map, Array.getElem?_map, hget id hid]
    · simpa using hc
  -- the levels that the containers of the larger encoder allow for are enough for the smaller one
  have hlevels := resolve_add_eq_finish e root (e'.containers.size - e.containers.size)
  rw [Nat.add_sub_cancel' hsize] at hlevels
  rw [← hlevels, finish]
  obtain ⟨v, rest, rest', hv, hv', -⟩ | ⟨error, herror, herror'⟩ :=
    alikeResults_resolve e'.containers.size root _ _ hroot halike
  · rw [hv, hv']
    rfl
  · rw [herror, herror']

end

end Encoder

end SqlFormula.Typed
