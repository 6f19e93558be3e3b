import Mathlib
import SqlFormula.Proofs.Typed.Construction
import SqlFormula.Proofs.Typed.Translation

/-!
# Typed data is stored as the value it stands for

The steps that store typed data change an encoder, while what the data stands for is said by a recursion over it. Each
step is followed along with that recursion: it either gives a part with new containers, whose value is the translation
of the data, or fails with the first fault of the data.

## Main definitions

- `Building.Yields` — what a step gives, or why it fails
- `Stored`, `FilledArray`, `FilledObject` — what has been added to an encoder

## Main statements

- `Datum.yields_build` — the slot of typed data is a part for its translation
- `Datum.toValue_iff` — the value of typed data is its translation, and its error the first fault
-/

namespace SqlFormula.Typed

namespace Building

variable {α β γ δ : Type}

/-- From an encoder, a step gives what belongs to an expected result, if there are no faults; otherwise it fails with
the first of them, and no result is expected. -/
def Yields (step : Building α) (e : Encoder) (faults : List EncodeError) (expected : Option β)
    (Q : α → β → Encoder → Prop) : Prop :=
  (∃ a b e', step.run e = (.ok a, e') ∧ faults = [] ∧ expected = some b ∧ Q a b e') ∨
    ∃ error e', step.run e = (.error error, e') ∧ faults.head? = some error ∧ expected = none

variable {step : Building α} {f : α → Building γ} {e e' : Encoder} {a : α} {b : β} {faults faults' : List EncodeError}
  {expected : Option β} {expected' : Option δ} {Q : α → β → Encoder → Prop} {Q' : γ → δ → Encoder → Prop}

theorem run_bind {σ : Type} (step : ExceptT EncodeError (StateM σ) α) (f : α → ExceptT EncodeError (StateM σ) γ)
    (s : σ) : (step >>= f).run s =
      match (step.run s).1 with
      | .ok a => (f a).run (step.run s).2
      | .error error => (.error error, (step.run s).2) := by
  show ExceptT.bindCont f (step.run s).1 (step.run s).2 = _
  cases (step.run s).1 with
  | ok a => rfl
  | error error => rfl

theorem yields_pure (hfaults : faults = []) (hexpected : expected = some b) (hQ : Q a b e) :
    (pure a : Building α).Yields e faults expected Q :=
  .inl ⟨a, b, e, rfl, hfaults, hexpected, hQ⟩

theorem yields_error {error : EncodeError} (hstep : step.run e = (.error error, e'))
    (hfaults : faults.head? = some error) (hexpected : expected = none) : step.Yields e faults expected Q :=
  .inr ⟨error, e', hstep, hfaults, hexpected⟩

theorem Yields.run_bind {Q : γ → β → Encoder → Prop} (h : (f a).Yields e' faults expected Q)
    (hstep : step.run e = (.ok a, e')) : (step >>= f).Yields e faults expected Q := by
  rw [Yields, Building.run_bind, hstep]
  exact h

/-- One step comes before another, and so do its faults. -/
theorem Yields.bind (h : step.Yields e faults expected Q)
    (hok : ∀ a b e', Q a b e' → faults = [] → expected = some b → (f a).Yields e' faults' expected' Q')
    (herror : ∀ error, faults.head? = some error → expected = none →
      faults'.head? = some error ∧ expected' = none) : (step >>= f).Yields e faults' expected' Q' := by
  obtain ⟨a, b, e', hstep, hfaults, hexpected, hQ⟩ | ⟨error, e', hstep, hfaults, hexpected⟩ := h
  · exact (hok a b e' hQ hfaults hexpected).run_bind hstep
  · obtain ⟨hfaults', hexpected'⟩ := herror error hfaults hexpected
    refine .inr ⟨error, e', ?_, hfaults', hexpected'⟩
    rw [Building.run_bind, hstep]

/-- What is expected needs a result of both steps. -/
theorem Yields.bind_append {later : List EncodeError} (k : β → Option δ) (h : step.Yields e faults expected Q)
    (hok : ∀ a b e', Q a b e' → expected = some b → (f a).Yields e' later (k b) Q')
    (hfaults : faults' = faults ++ later) (hexpected : expected' = expected.bind k) :
    (step >>= f).Yields e faults' expected' Q' := by
  refine h.bind (fun a b e' hQ hnil hsome => ?_) fun error hhead hnone => ?_
  · rw [hfaults, hexpected, hnil, List.nil_append, hsome, Option.bind_some]
    exact hok a b e' hQ hsome
  · rw [hfaults, hexpected, hnone, List.head?_append, hhead]
    exact ⟨rfl, rfl⟩

/-- What a step gives is handed on in another form. -/
theorem Yields.bind_pure {g : α → γ} (k : β → δ) (h : step.Yields e faults expected Q)
    (hexpected : expected' = expected.map k) (hQ : ∀ a b e', Q a b e' → Q' (g a) (k b) e') :
    (step >>= fun a => pure (g a)).Yields e faults expected' Q' := by
  refine h.bind_append (some ∘ k) (fun a b e' hab _ => ?_) (List.append_nil faults).symm ?_
  · exact yields_pure rfl rfl (hQ a b e' hab)
  · rw [hexpected, Option.map_eq_bind]

/-- What is expected may be put in other words. -/
theorem Yields.map {Q' : α → δ → Encoder → Prop} (h : step.Yields e faults expected Q) (g : β → δ)
    (hfaults : faults' = faults) (hexpected : expected' = expected.map g)
    (hQ : ∀ a b e', Q a b e' → Q' a (g b) e') : step.Yields e faults' expected' Q' := by
  obtain ⟨a, b, e', hstep, rfl, rfl, hab⟩ | ⟨error, e', hstep, hhead, rfl⟩ := h
  · exact .inl ⟨a, g b, e', hstep, hfaults, hexpected, hQ a b e' hab⟩
  · exact .inr ⟨error, e', hstep, by rw [hfaults, hhead], hexpected⟩

theorem run_read {step : Encoder → Except EncodeError α} (h : step e = .ok a) : (read step).run e = (.ok a, e) :=
  congrArg (·, e) h

theorem run_write {step : Encoder → Except EncodeError Encoder} (h : step e = .ok e') :
    (write step).run e = (.ok (), e') := by
  simp only [ExceptT.run, write, h]

end Building

open Encoder

/-- A slot for a value has been added to an encoder. -/
def Stored (e : Encoder) (slot : Slot) (v : Value) (e' : Encoder) : Prop :=
  ∃ p : Part, p.slot = slot ∧ p.value = v ∧ p.Added e e'

/-- Items have been added to an array that had some before. -/
def FilledArray (e : Encoder) (first id : Nat) (before : List Value) (_ : Unit) (vs : List Value) (e' : Encoder) :
    Prop :=
  e.Extends {id} e' ∧ ∃ items parts, e'.Composed first id (.array items) parts ∧ parts.map Part.value = before ++ vs

def valuesOf (entries : List (String × Part)) : List (String × Value) :=
  entries.map fun e => (e.1, e.2.value)

/-- Fields have been set one after the other in an object that had some before. -/
def FilledObject (e : Encoder) (first id : Nat) (before : List (String × Value)) (_ : Unit)
    (new : List (String × Value)) (e' : Encoder) : Prop :=
  e.Extends {id} e' ∧ ∃ entries, e'.Composed first id (objectOf entries) (entries.map Prod.snd) ∧
    valuesOf entries = new.foldl (fun sorted (key, v) => Entries.insert key v sorted) before

/-- A container has been filled, and stands for a value; it reaches containers from number `first` on. -/
def Filled (e : Encoder) (first id : Nat) (v : Value) (e' : Encoder) : Prop :=
  e.Extends {id} e' ∧ first ≤ id ∧ ∃ p : Part, p.slot = .container id ∧ p.value = v ∧ p.Sound e' ∧
    ∀ i ∈ p.ids, first ≤ i ∧ i < e'.containers.size

section

variable {e e' : Encoder} {first id : Nat} {slot : Slot} {v : Value}

theorem stored_value (v : Value) (h : e.Extends ∅ e') : Stored e (.value v) v e' :=
  ⟨⟨.value v, ∅, v⟩, rfl, rfl, Part.added_value v h⟩

theorem Stored.extends_empty (h : Stored e slot v e') : e.Extends ∅ e' := by
  obtain ⟨p, -, -, hp⟩ := h
  exact hp.extends_empty

/-- A slot stands for a text only if it is one. -/
theorem Stored.slot_eq (h : Stored e slot v e') : (∃ s, v = .text s ∧ slot = .value (.text s)) ∨
    textOf? (some v) = none ∧ ∀ s, slot ≠ .value (.text s) := by
  obtain ⟨p, rfl, rfl, hp⟩ := h
  obtain ⟨slot, ids, v⟩ := p
  have hunfolds : e'.Unfolds slot v := hp.sound.unfolds
  show (∃ s, v = .text s ∧ slot = .value (.text s)) ∨ textOf? (some v) = none ∧ ∀ s, slot ≠ .value (.text s)
  cases hunfolds with
  | value v =>
    by_cases htext : ∃ s, v = .text s
    · obtain ⟨s, rfl⟩ := htext
      exact .inl ⟨s, rfl, rfl⟩
    · refine .inr ⟨?_, fun s hs => htext ⟨s, Slot.value.inj hs⟩⟩
      rw [textOf?]
      exact fun s hs => htext ⟨s, Option.some.inj hs⟩
  | @container id c vs hc hslots =>
    refine .inr ⟨?_, fun s => Slot.noConfusion⟩
    cases c with
    | object entries => rfl
    | array items => rfl

/-- Whether a slot is a text is seen from the value that it stands for. -/
theorem Stored.keyOf_eq (h : Stored e slot v e') (path : List Segment) : keyOf path slot =
    match textOf? (some v) with
    | some s => .ok s
    | none => .error (.unsupported .key path) := by
  obtain ⟨s, rfl, rfl⟩ | ⟨hnone, hslot⟩ := h.slot_eq
  · rfl
  · rw [hnone, keyOf]
    exact hslot

theorem Stored.dateTimeSlot_eq (h : Stored e slot v e') (path : List Segment) : dateTimeSlot path slot =
    match textOf? (some v) with
    | some s =>
      match Instant.ofText? s with
      | some t => .ok (.value (.dateTime t))
      | none => .error (.invalidDateTime s)
    | none => .error (.unsupported .dateTime path) := by
  obtain ⟨s, rfl, rfl⟩ | ⟨hnone, hslot⟩ := h.slot_eq
  · rfl
  · rw [hnone, dateTimeSlot]
    exact hslot

theorem FilledArray.filled {vs : List Value} (h : FilledArray e first id [] () vs e') :
    Filled e first id (.array vs) e' := by
  obtain ⟨hwritten, items, parts, hcomposed, hvalues⟩ := h
  obtain ⟨hsound, hids⟩ := hcomposed.close
  refine ⟨hwritten, hcomposed.first_le, _, rfl, ?_, hsound, hids⟩
  rw [Container.fill, hvalues, List.nil_append]

theorem FilledObject.filled {new : List (String × Value)} (h : FilledObject e first id [] () new e') :
    Filled e first id (.object (Entries.ofList new)) e' := by
  obtain ⟨hwritten, entries, hcomposed, hvalues⟩ := h
  obtain ⟨hsound, hids⟩ := hcomposed.close
  have hfill : (objectOf entries).fill ((entries.map Prod.snd).map Part.value) = .object (valuesOf entries) := by
    rw [objectOf, Container.fill, List.map_map, List.map_map, List.zip_map']
    rfl
  exact ⟨hwritten, hcomposed.first_le, _, rfl, hfill.trans (congrArg Value.object hvalues), hsound, hids⟩

theorem Filled.stored {e₁ : Encoder} (h : Filled e₁ e.containers.size id v e') (hextends : e.Extends ∅ e₁) :
    Stored e (.container id) v e' := by
  obtain ⟨hwritten, hid, p, hslot, hvalue, hsound, hids⟩ := h
  refine ⟨p, hslot, hvalue, hextends.trans_of_le hwritten fun i hi => ?_, hsound, hids⟩
  rw [Finset.mem_singleton.1 hi]
  exact hid

theorem Filled.stored_variant {e₁ : Encoder} {name : String}
    (h : Filled e₁ (e.containers.size + 1) (e.containers.size + 1) v e') (hextends : e.Extends ∅ e₁)
    (houter : e₁.containers[e.containers.size]? = some (.object [(name, .container (e.containers.size + 1))])) :
    Stored e (.container e.containers.size) (.object [(name, v)]) e' := by
  obtain ⟨hwritten, -, p, hslot, rfl, hsound, hids⟩ := h
  have hget : e'.containers[e.containers.size]? = some (.object [(name, p.slot)]) := by
    have hnot : e.containers.size ∉ ({e.containers.size + 1} : Finset Nat) :=
      fun hmem => Nat.ne_of_lt (Nat.lt_succ_self _) (Finset.mem_singleton.1 hmem)
    rw [hwritten.get_eq _ (Array.getElem?_eq_some_iff.1 houter).1 hnot, houter, hslot]
  refine ⟨_, rfl, rfl, added_wrapper (hextends.trans_of_le hwritten fun i hi => ?_) hsound hget (Nat.le_refl _)
    fun i hi => ?_⟩
  · rw [Finset.mem_singleton.1 hi]
    exact Nat.le_succ _
  · obtain ⟨hle, hlt⟩ := hids i hi
    exact ⟨(Nat.le_succ _).trans hle, hlt, Nat.ne_of_gt hle⟩

/-- What has been stored can be put together. -/
theorem Stored.finish (h : Stored e slot v e') : e'.finish slot = .ok v := by
  obtain ⟨p, rfl, rfl, hp⟩ := h
  have htree : e'.IsTree p.slot :=
    isTree_of_onceEach hp.sound.once fun id hid => Finset.mem_range.2 (hp.fresh id hid).2
  obtain ⟨w, hfinish, hw⟩ := finish_of_isTree htree
  rw [hfinish, hp.sound.unfolds.unique hw]

theorem FilledObject.mono {before new : List (String × Value)} {u : Unit} {e₁ : Encoder} (hextends : e.Extends ∅ e₁)
    (h : FilledObject e₁ first id before u new e') : FilledObject e first id before u new e' :=
  ⟨(hextends.mono (Finset.empty_subset _)).trans h.1, h.2⟩

theorem FilledObject.after {entries : List (String × Part)} {key : String} {p : Part}
    {new : List (String × Value)} {u : Unit} {e₁ : Encoder} (hwritten : e.Extends {id} e₁)
    (h : FilledObject e₁ first id (valuesOf (Entries.insert key p entries)) u new e') :
    FilledObject e first id (valuesOf entries) u ((key, p.value) :: new) e' := by
  obtain ⟨hwritten', entries', hcomposed, hvalues⟩ := h
  refine ⟨hwritten.trans hwritten', entries', hcomposed, ?_⟩
  rw [hvalues, List.foldl_cons, valuesOf, ← Entries.insert_map Part.value]
  rfl

end

open Building

namespace Datum

mutual

/-- **The slot of typed data.** It stands for the translation of the data, and all containers that it reaches are
new; or the first fault is met. -/
theorem yields_build (path : List Segment) (d : Datum) (e : Encoder) :
    (d.build path).Yields e (d.faults path) d.translation (Stored e) := by
  cases d with
  | nothing => exact yields_pure rfl rfl (stored_value .null (.refl e))
  | boolean b => exact yields_pure rfl rfl (stored_value (.boolean b) (.refl e))
  | integer i => exact yields_pure rfl rfl (stored_value (.integer i) (.refl e))
  | unsigned n =>
    rw [build, faults, translation, unsignedSlot, Number.int64?]
    by_cases hfits : Number.Fits n.toNat
    · rw [if_pos hfits, if_pos hfits, if_pos hfits]
      exact yields_pure rfl rfl (stored_value (.integer (Int64.ofNat n.toNat)) (.refl e))
    · rw [if_neg hfits, if_neg hfits, if_neg hfits]
      exact yields_error rfl rfl rfl
  | wide signed => exact yields_error rfl rfl rfl
  | float x => exact yields_pure rfl rfl (stored_value (.float x) (.refl e))
  | text s => exact yields_pure rfl rfl (stored_value (.text s) (.refl e))
  | bytes bs => exact yields_pure rfl rfl (stored_value (.blob bs) (.refl e))
  | wrapped d => exact yields_build path d e
  | dateTime d =>
    -- the content is stored; what it stands for decides whether it is a date and time
    refine (yields_build path d e).bind_append (fun v => ((textOf? (some v)).bind Instant.ofText?).map .dateTime)
      (fun slot v e₁ hstored htranslation => ?_) rfl ?_
    · rw [hstored.dateTimeSlot_eq, htranslation]
      obtain ⟨s, rfl, -⟩ | ⟨hnone, -⟩ := hstored.slot_eq
      · simp only [textOf?, Option.bind_some]
        cases Instant.ofText? s with
        | none => exact yields_error rfl rfl rfl
        | some t => exact yields_pure rfl rfl (stored_value (.dateTime t) hstored.extends_empty)
      · rw [hnone]
        cases v with
        | text s => nomatch hnone
        | _ => exact yields_error rfl rfl rfl
    · rw [translation]
      cases d.translation with
      | none => rfl
      | some v => rfl
  | sequence items =>
    refine Yields.run_bind ?_ rfl
    refine (yields_buildItems path items _ _ _ (composed_beginArray e)).bind_pure .array rfl fun _ vs e₁ hfilled => ?_
    exact hfilled.filled.stored (extends_allocate _ e)
  | mapping parts =>
    refine Yields.run_bind ?_ rfl
    refine (yields_buildParts path none parts _ _ _ (composed_beginObject e)).bind_pure
      (fun new => .object (Entries.ofList new)) rfl fun _ new e₁ hfilled => ?_
    exact hfilled.filled.stored (extends_allocate _ e)
  | struct fields =>
    refine Yields.run_bind ?_ rfl
    refine (yields_buildFields path fields _ _ _ (composed_beginObject e)).bind_pure
      (fun new => .object (Entries.ofList new)) rfl fun _ new e₁ hfilled => ?_
    exact hfilled.filled.stored (extends_allocate _ e)
  | unitVariant name => exact yields_pure rfl rfl (stored_value (.text name) (.refl e))
  | wrappedVariant name d =>
    refine (yields_build (path ++ [.field name]) d e).bind_append (fun v => some (.object [(name, v)])) ?_
      (List.append_nil _).symm Option.map_eq_bind
    rintro slot v e₁ ⟨p, rfl, rfl, hp⟩ -
    -- the content comes first, so the object around it is newer than all that it reaches
    obtain ⟨e₂, hinsert, hadded⟩ := insert_allocate hp name
    refine Yields.run_bind (Yields.run_bind ?_ (run_write hinsert)) rfl
    exact yields_pure rfl rfl ⟨_, rfl, rfl, hadded⟩
  | tupleVariant name items =>
    -- the object comes first, and stays as it is while the array in it is filled
    obtain ⟨e₁, hattach, houter, hcomposed, hextends⟩ := @attach_allocate (.array #[]) rfl name e
    refine Yields.run_bind (Yields.run_bind ?_ hattach) rfl
    refine (yields_buildItems (path ++ [.field name]) items _ _ _ hcomposed).bind_pure
      (fun vs => .object [(name, .array vs)]) rfl fun _ vs e₂ hfilled => ?_
    exact hfilled.filled.stored_variant hextends houter
  | structVariant name fields =>
    obtain ⟨e₁, hattach, houter, hcomposed, hextends⟩ := @attach_allocate (.object []) rfl name e
    refine Yields.run_bind (Yields.run_bind ?_ hattach) rfl
    refine (@yields_buildFields (path ++ [.field name]) fields _ _ _ [] hcomposed).bind_pure
      (fun new => .object [(name, .object (Entries.ofList new))]) rfl fun _ new e₂ hfilled => ?_
    exact hfilled.filled.stored_variant hextends houter
  | failing message => exact yields_error rfl rfl rfl

/-- Items are added to an array after those that it has. -/
theorem yields_buildItems (path : List Segment) (ds : List Datum) (e : Encoder) (first id : Nat) {items : Array Slot}
    {parts : List Part} (h : e.Composed first id (.array items) parts) :
    (buildItems id path ds).Yields e (itemFaults path parts.length ds) (itemTranslations ds)
      (FilledArray e first id (parts.map Part.value)) := by
  match ds with
  | [] => exact yields_pure rfl rfl ⟨Extends.refl e, items, parts, h, (List.append_nil _).symm⟩
  | d :: ds =>
    have hcount : e.itemCount id = .ok parts.length := by
      rw [itemCount, h.get, ← List.length_map Part.slot, ← h.slots]
      rfl
    rw [buildItems]
    refine Yields.run_bind ?_ (run_read hcount)
    refine (yields_build (path ++ [.item parts.length]) d e).bind_append
      (fun v => (itemTranslations ds).map fun vs => v :: vs) ?_ rfl rfl
    rintro slot v e₁ ⟨p, rfl, rfl, hp⟩ -
    obtain ⟨e₂, hpush, hwritten, hcomposed⟩ := h.push hp
    refine Yields.run_bind ?_ (run_write hpush)
    refine (yields_buildItems path ds e₂ first id hcomposed).map (p.value :: ·) ?_ rfl ?_
    · rw [List.length_append, List.length_singleton]
    · rintro ⟨⟩ vs e' ⟨hwritten', items, parts', hcomposed', hvalues⟩
      refine ⟨hwritten.trans hwritten', items, parts', hcomposed', ?_⟩
      rw [hvalues, List.map_append, List.append_assoc]
      rfl

/-- Keys and values of a map are met one after the other, and entries are put in their places. -/
theorem yields_buildParts (path : List Segment) (pending : Option String) (ps : List MapPart) (e : Encoder)
    (first id : Nat) {entries : List (String × Part)}
    (h : e.Composed first id (objectOf entries) (entries.map Prod.snd)) :
    (buildParts id path pending ps).Yields e (partFaults path pending ps) (partTranslations pending ps)
      (FilledObject e first id (valuesOf entries)) := by
  match ps, pending with
  | [], _ => exact yields_pure rfl rfl ⟨Extends.refl e, entries, h, rfl⟩
  | .key d :: rest, _ =>
    rw [buildParts]
    -- a key is not attached to anything, but what it adds stays
    refine (yields_build path d e).bind_append
      (fun v => (textOf? (some v)).bind fun key => partTranslations (some key) rest)
      (fun slot v e₁ hstored htranslation => ?_) (List.append_assoc ..) ?_
    · rw [hstored.keyOf_eq, htranslation]
      obtain ⟨s, rfl, -⟩ | ⟨hnone, -⟩ := hstored.slot_eq
      · refine Yields.run_bind ?_ rfl
        refine (yields_buildParts path (some s) rest e₁ first id (h.mono hstored.extends_empty)).map (fun new => new)
          rfl Option.map_id'.symm fun _ new e' => ?_
        exact FilledObject.mono hstored.extends_empty
      · rw [hnone]
        cases v with
        | text s => nomatch hnone
        | _ => exact yields_error rfl rfl rfl
    · rw [partTranslations]
      cases d.translation with
      | none => rfl
      | some v => rfl
  | .value d :: rest, none =>
    rw [buildParts, partFaults, partTranslations]
    exact yields_error rfl rfl rfl
  | .value d :: rest, some key =>
    rw [buildParts]
    refine (yields_build (path ++ [.field key]) d e).bind_append
      (fun v => (partTranslations none rest).map fun entries => (key, v) :: entries) ?_ rfl rfl
    rintro slot v e₁ ⟨p, rfl, rfl, hp⟩ -
    obtain ⟨e₂, hinsert, hwritten, hcomposed⟩ := h.insert key hp
    refine Yields.run_bind ?_ (run_write hinsert)
    refine (yields_buildParts path none rest e₂ first id hcomposed).map ((key, p.value) :: ·) rfl rfl fun _ new e' => ?_
    exact FilledObject.after hwritten

theorem yields_buildFields (path : List Segment) (fs : List (String × Datum)) (e : Encoder) (first id : Nat)
    {entries : List (String × Part)} (h : e.Composed first id (objectOf entries) (entries.map Prod.snd)) :
    (buildFields id path fs).Yields e (fieldFaults path fs) (fieldTranslations fs)
      (FilledObject e first id (valuesOf entries)) := by
  match fs with
  | [] => exact yields_pure rfl rfl ⟨Extends.refl e, entries, h, rfl⟩
  | (key, d) :: rest =>
    rw [buildFields]
    refine (yields_build (path ++ [.field key]) d e).bind_append
      (fun v => (fieldTranslations rest).map fun entries => (key, v) :: entries) ?_ rfl rfl
    rintro slot v e₁ ⟨p, rfl, rfl, hp⟩ -
    obtain ⟨e₂, hinsert, hwritten, hcomposed⟩ := h.insert key hp
    refine Yields.run_bind ?_ (run_write hinsert)
    refine (yields_buildFields path rest e₂ first id hcomposed).map ((key, p.value) :: ·) rfl rfl fun _ new e' => ?_
    exact FilledObject.after hwritten

end

/-- **Typed data is stored as its translation.** It fails exactly if it has faults, with the first of them; it never
fails because of a container. -/
theorem toValue_iff (d : Datum) :
    (∀ v, d.toValue = .ok v ↔ d.translation = some v) ∧
      (∀ error, d.toValue = .error error ↔ (d.faults []).head? = some error) ∧
      (∀ id, d.toValue ≠ .error (.reused id)) ∧ ∀ id expected, d.toValue ≠ .error (.mismatch id expected) := by
  obtain ⟨slot, v, e, hrun, hfaults, htranslation, hstored⟩ | ⟨error, e, hrun, hhead, htranslation⟩ :=
    yields_build [] d empty
  · have hvalue : d.toValue = .ok v := by
      rw [toValue, hrun]
      exact hstored.finish
    rw [hvalue, hfaults, htranslation]
    refine ⟨fun w => ?_, fun error => ⟨nofun, nofun⟩, nofun, nofun⟩
    rw [Except.ok.injEq, Option.some.injEq]
  · have herror : d.toValue = .error error := by
      rw [toValue, hrun]
    have hfault : error.IsFault := isFault_of_mem_faults [] d error (List.mem_of_mem_head? hhead)
    rw [herror, hhead, htranslation]
    refine ⟨fun v => ⟨nofun, nofun⟩, fun error' => ?_, ?_, ?_⟩
    · rw [Except.error.injEq, Option.some.injEq]
    · rintro id ⟨⟩
      exact hfault
    · rintro id expected ⟨⟩
      exact hfault

/-- A value without a key is met after an item that can be stored. -/
example : (sequence [.nothing, keyless .nothing]).toValue = .error .missingKey := by
  cbv

/-- A key that is not a text is reported where its map stands. -/
example : (sequence [map [(.nothing, .nothing)]]).toValue = .error (.unsupported .key [.item 0]) := by
  cbv

end Datum

end SqlFormula.Typed
