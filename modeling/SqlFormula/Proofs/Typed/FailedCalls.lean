import Mathlib
import SqlFormula.Proofs.Typed.Confinement
import SqlFormula.Proofs.Typed.Session

/-!
# Calls that fail

An encoder is called in any order, with the handles that it has issued. A call that fails may leave containers behind,
and steps on the path. But no handle of these containers has been issued, and none of the others refers to them. So
they are lost: whatever is called later, they are neither reached nor written to.

## Main definitions

- `Call` — an operation, or storing typed data
- `Usage` — a session with the handles that it has issued; `Usage.Later` — after further calls with such handles
- `Usage.Avoids` — lost containers, of which there are no handles and to which no others refer
- `Usage.Unharmed` — what a call that has failed leaves as it was

## Main statements

- `Usage.Avoids.call` — lost containers stay so in a call
- `Session.encodeAlike` — data is stored alike by all sessions
- `Usage.unharmed_of_fails` — a call that fails does no harm
-/

namespace SqlFormula.Typed

open Encoder

/-- A call of an encoder. -/
inductive Call where
  | operation (op : Operation)
  | encode (d : Datum)

namespace Call

/-- The containers that a call names. -/
def handles : Call → Finset Nat
  | .operation op => op.handles
  | .encode _ => ∅

/-- What a call gives back, and the session after it. -/
def perform : Call → Session → Except EncodeError (Option Slot) × Session
  | .operation op, s => (op.answer s.encoder, { s with encoder := op.apply s.encoder })
  | .encode d, s => ((s.encode d).1.map some, (s.encode d).2)

/-- The handle that is issued with what a call gives back, if there is one. -/
def issued : Except EncodeError (Option Slot) → Finset Nat
  | .ok (some slot) => slot.ids
  | .ok none | .error _ => ∅

variable {c : Call} {s : Session}

theorem confined_perform (c : Call) (s : Session) : Confined c.handles s.encoder (c.perform s).2.encoder := by
  cases c with
  | operation op => exact confined_apply op s.encoder
  | encode d =>
    rw [perform, (s.encode_eq d).2]
    exact (d.confines_build ∅ [] s.encoder).1

/-- A call that fails has written to nothing, and a handle that is issued is new. -/
theorem answered_perform (c : Call) (s : Session) :
    Answered s.encoder (c.perform s).2.encoder (c.perform s).1 := by
  cases c with
  | operation op => exact answered_apply op s.encoder
  | encode d =>
    obtain ⟨hconfined, hids⟩ := d.confines_build ∅ [] s.encoder
    rw [perform, (s.encode_eq d).1, (s.encode_eq d).2]
    cases hrun : ((d.build []).run s.encoder).1 with
    | error error => exact hconfined
    | ok slot =>
      intro given hgiven
      rw [← Option.some.inj hgiven]
      exact hids slot hrun

theorem confined_of_fails {error : EncodeError} (h : (c.perform s).1 = .error error) :
    Confined ∅ s.encoder (c.perform s).2.encoder := by
  have hanswered := answered_perform c s
  rw [h] at hanswered
  exact hanswered

theorem owned_of_issued {id : Nat} (h : id ∈ issued (c.perform s).1) :
    Owned ∅ s.encoder (c.perform s).2.encoder id := by
  have hanswered := answered_perform c s
  match hanswer : (c.perform s).1 with
  | .ok (some slot) =>
    rw [hanswer] at h hanswered
    exact hanswered slot rfl id h
  | .ok none | .error _ =>
    rw [hanswer] at h
    exact absurd h (Finset.notMem_empty id)

end Call

/-- A session with the handles that it has issued. -/
structure Usage where
  session : Session
  issued : Finset Nat

namespace Usage

/-- A new session, which has not issued any handles. -/
def new : Usage :=
  ⟨.new, ∅⟩

abbrev encoder (u : Usage) : Encoder :=
  u.session.encoder

def size (u : Usage) : Nat :=
  u.encoder.containers.size

/-- After a call, the handle that it gives back has been issued as well. -/
def call (c : Call) (u : Usage) : Usage :=
  ⟨(c.perform u.session).2, u.issued ∪ Call.issued (c.perform u.session).1⟩

/-- One comes after the other by a call with handles that have been issued. -/
def Next (u u' : Usage) : Prop :=
  ∃ c : Call, c.handles ⊆ u.issued ∧ u' = u.call c

/-- One comes after the other by any number of such calls. -/
def Later : Usage → Usage → Prop :=
  Relation.ReflTransGen Next

/-- Some containers are lost: no handle of them has been issued, and no others refer to them. All other handles and
references are to containers that are there. -/
structure Avoids (lost : Finset Nat) (u : Usage) : Prop where
  lost_lt : ∀ id ∈ lost, id < u.size
  issued : ∀ id ∈ u.issued, id < u.size ∧ id ∉ lost
  refers : ∀ id id', id ∉ lost → u.encoder.Refers id id' → id' < u.size ∧ id' ∉ lost

variable {u u' : Usage} {c : Call} {lost : Finset Nat}

theorem avoids_new : new.Avoids ∅ where
  lost_lt id h := absurd h (Finset.notMem_empty id)
  issued id h := absurd h (Finset.notMem_empty id)
  refers id _ _ h := absurd (lt_of_refers h) (Nat.not_lt_zero id)

theorem size_le_call (c : Call) (u : Usage) : u.size ≤ (u.call c).size :=
  (c.confined_perform u.session).extends_handles.size_le

/-- What a call writes to and refers to is there and not lost. -/
theorem Avoids.of_owned (h : u.Avoids lost) (hc : c.handles ⊆ u.issued) {id : Nat}
    (hid : Owned c.handles u.encoder (u.call c).encoder id) : id < (u.call c).size ∧ id ∉ lost := by
  obtain hid | ⟨hle, hlt⟩ := hid
  · obtain ⟨hlt, hnot⟩ := h.issued id (hc hid)
    exact ⟨hlt.trans_le (size_le_call c u), hnot⟩
  · exact ⟨hlt, fun hmem => Nat.not_lt.2 hle (h.lost_lt id hmem)⟩

/-- **Lost containers stay lost in a call,** whether it succeeds or fails, and are not written to. -/
theorem Avoids.call (h : u.Avoids lost) (hc : c.handles ⊆ u.issued) :
    (u.call c).Avoids lost ∧ ∀ id ∈ lost, (u.call c).encoder.containers[id]? = u.encoder.containers[id]? := by
  have hconfined := c.confined_perform u.session
  refine ⟨⟨?lost_lt, ?issued, ?refers⟩, ?unwritten⟩
  case lost_lt => exact fun id hid => (h.lost_lt id hid).trans_le (size_le_call c u)
  case issued =>
    intro id hid
    obtain hid | hid := Finset.mem_union.1 hid
    · obtain ⟨hlt, hnot⟩ := h.issued id hid
      exact ⟨hlt.trans_le (size_le_call c u), hnot⟩
    · exact h.of_owned hc ((Call.owned_of_issued hid).imp_left fun hmem => absurd hmem (Finset.notMem_empty id))
  case refers =>
    intro id id' hid hrefers
    obtain hrefers | ⟨-, hid'⟩ := hconfined.refers id id' hrefers
    · obtain ⟨hlt, hnot⟩ := h.refers id id' hid hrefers
      exact ⟨hlt.trans_le (size_le_call c u), hnot⟩
    · exact h.of_owned hc hid'
  case unwritten =>
    intro id hid
    exact hconfined.extends_handles.get_eq id (h.lost_lt id hid) fun hmem => (h.issued id (hc hmem)).2 hid

/-- **Lost containers stay lost,** and are not written to any more. -/
theorem Avoids.later (h : u.Avoids lost) (hlater : Later u u') :
    u'.Avoids lost ∧ ∀ id ∈ lost, u'.encoder.containers[id]? = u.encoder.containers[id]? := by
  induction hlater with
  | refl => exact ⟨h, fun _ _ => rfl⟩
  | tail _ hnext ih =>
    obtain ⟨c, hc, rfl⟩ := hnext
    obtain ⟨havoids, hget⟩ := ih.1.call hc
    exact ⟨havoids, fun id hid => (hget id hid).trans (ih.2 id hid)⟩

/-- What a call that fails leaves behind is lost. -/
theorem Avoids.of_fails {error : EncodeError} (h : u.Avoids ∅) (hfails : (c.perform u.session).1 = .error error) :
    (u.call c).Avoids (Finset.Ico u.size (u.call c).size) := by
  have hconfined := Call.confined_of_fails hfails
  have hold {id : Nat} (hid : id < u.size) : id < (u.call c).size ∧ id ∉ Finset.Ico u.size (u.call c).size :=
    ⟨hid.trans_le (size_le_call c u), fun hmem => Nat.not_lt.2 (Finset.mem_Ico.1 hmem).1 hid⟩
  refine ⟨fun id hid => (Finset.mem_Ico.1 hid).2, fun id hid => ?_, fun id id' hid hrefers => ?_⟩
  · -- no handle is issued with an error
    rw [Usage.call, hfails] at hid
    exact hold (h.issued id ((Finset.mem_union.1 hid).resolve_right (Finset.notMem_empty id))).1
  · obtain hrefers | ⟨hnew, -⟩ := hconfined.refers id id' hrefers
    · exact hold (h.refers id id' (Finset.notMem_empty id) hrefers).1
    · exact absurd (Finset.mem_Ico.2 (hnew.resolve_left (Finset.notMem_empty id))) hid

end Usage

/-- Data is stored alike by two sessions: both fail with the same error, or both give slots for the same value. -/
def Session.EncodeAlike (s s' : Session) (d : Datum) : Prop :=
  (∃ error, (s.encode d).1 = .error error ∧ (s'.encode d).1 = .error error) ∨
    ∃ slot slot' v, (s.encode d).1 = .ok slot ∧ (s.encode d).2.encoder.finish slot = .ok v ∧
      (s'.encode d).1 = .ok slot' ∧ (s'.encode d).2.encoder.finish slot' = .ok v

/-- **Data is stored alike by all sessions,** whatever they have been used for. -/
theorem Session.encodeAlike (s s' : Session) (d : Datum) : s.EncodeAlike s' d := by
  rw [Session.EncodeAlike, (s.encode_eq d).1, (s.encode_eq d).2, (s'.encode_eq d).1, (s'.encode_eq d).2]
  obtain ⟨slot, v, e, hrun, hfaults, hvalue, hstored⟩ | ⟨error, e, hrun, hfaults, -⟩ := d.yields_build [] s.encoder
  · obtain ⟨slot', v', e', hrun', -, hvalue', hstored'⟩ | ⟨error, e', -, hfaults', -⟩ := d.yields_build [] s'.encoder
    · obtain rfl := Option.some.inj (hvalue.symm.trans hvalue')
      rw [hrun, hrun']
      exact .inr ⟨slot, slot', v, rfl, hstored.finish, rfl, hstored'.finish⟩
    · rw [hfaults] at hfaults'
      cases hfaults'
  · obtain ⟨slot', v', e', -, hfaults', -, -⟩ | ⟨error', e', hrun', hfaults', -⟩ := d.yields_build [] s'.encoder
    · rw [hfaults'] at hfaults
      cases hfaults
    · obtain rfl := Option.some.inj (hfaults.symm.trans hfaults')
      rw [hrun, hrun']
      exact .inl ⟨error, rfl, rfl⟩

namespace Usage

/-- What a call that has failed leaves as it was, now and later on. -/
structure Unharmed (before after : Usage) : Prop where
  /-- The containers that were there are as they were. -/
  kept : ∀ id < before.size, after.encoder.containers[id]? = before.encoder.containers[id]?
  /-- The same value is put together from them, or the same container is in the way. -/
  finish_eq : ∀ id < before.size, after.encoder.finish (.container id) = before.encoder.finish (.container id)
  /-- What has been left behind is reached from no others, neither from those that were there nor from later ones. -/
  unreached : ∀ later, Later after later → ∀ id, ¬(before.size ≤ id ∧ id < after.size) →
    ∀ path id', later.encoder.Reaches (.container id) path id' → ¬(before.size ≤ id' ∧ id' < after.size)
  /-- It is not written to any more, either. -/
  unwritten : ∀ later, Later after later → ∀ id, before.size ≤ id ∧ id < after.size →
    later.encoder.containers[id]? = after.encoder.containers[id]?
  /-- Data is stored as by a new encoder. -/
  encodeAlike : ∀ later, Later after later → ∀ d, later.session.EncodeAlike .new d

/-- **A call that fails does no harm,** whatever handles it has been given. -/
theorem unharmed_of_fails {u : Usage} {c : Call} {error : EncodeError} (hu : Later new u)
    (hfails : (c.perform u.session).1 = .error error) : Unharmed u (u.call c) := by
  have havoids : u.Avoids ∅ := (avoids_new.later hu).1
  have hconfined := Call.confined_of_fails hfails
  have hkept (id : Nat) (hid : id < u.size) : (u.call c).encoder.containers[id]? = u.encoder.containers[id]? :=
    hconfined.extends_handles.get_eq id hid (Finset.notMem_empty id)
  have hlost := havoids.of_fails hfails
  refine ⟨hkept, fun id hid => ?finish_eq, fun later hlater id hid path id' hpath => ?unreached,
    fun later hlater id hid => (hlost.later hlater).2 id (Finset.mem_Ico.2 hid),
    fun later _ d => later.session.encodeAlike .new d⟩
  case finish_eq =>
    have hclosed : u.encoder.Closed (· < u.size) := fun id id' _ hrefers =>
      (havoids.refers id id' (Finset.notMem_empty id) hrefers).1
    refine hclosed.finish_eq (fun id' hid' => ?_) (size_le_call c u) hkept
    rw [Finset.mem_singleton.1 hid']
    exact hid
  case unreached =>
    have hclosed : later.encoder.Closed (· ∉ Finset.Ico u.size (u.call c).size) := fun id id' hid hrefers =>
      ((hlost.later hlater).1.refers id id' hid hrefers).2
    refine fun hmem => hclosed.of_reaches (fun id' hid' => ?_) hpath (Finset.mem_Ico.2 hmem)
    rw [Finset.mem_singleton.1 hid']
    exact fun hmem => hid (Finset.mem_Ico.1 hmem)

/-- Data fails at an item of its second field, when an object and two arrays are there already: another object and
another array remain, and two steps on the path. -/
theorem unharmed_of_fails_partway :
    let u := ((new.call (.operation .beginObject)).call (.operation (.nestArray 0 "a"))).call
      (.encode (.sequence [.integer 1]))
    let c := Call.encode (.struct [("b", .text "x"), ("c", .sequence [.nothing, .wide true])])
    Later new u ∧ (c.perform u.session).1 = .error (.unsupported (.wide true) [.field "c", .item 1]) ∧
      (u.size = 3 ∧ (u.call c).size = 5 ∧ (u.call c).session.path = [.field "c", .item 1]) ∧
      Unharmed u (u.call c) := by
  intro u c
  have hlater : Later new u :=
    ((Relation.ReflTransGen.single ⟨.operation .beginObject, Finset.empty_subset _, rfl⟩).tail
      ⟨.operation (.nestArray 0 "a"), by decide, rfl⟩).tail ⟨.encode (.sequence [.integer 1]), Finset.empty_subset _, rfl⟩
  have hfails : (c.perform u.session).1 = .error (.unsupported (.wide true) [.field "c", .item 1]) := by
    cbv
  exact ⟨hlater, hfails, ⟨by cbv, by cbv, by cbv⟩, unharmed_of_fails hlater hfails⟩

end Usage

end SqlFormula.Typed
