import Mathlib
import SqlFormula.Proofs.Typed.Encoding

/-!
# The path as part of the state

Typed data is stored with the path at which it stands handed down to its parts. An encoder may as well keep the path
itself, as a stack: the step to a part is put on it before the part is stored, and is taken off afterwards. Where the
part fails it is left behind. Nothing is seen of that later, as the path is emptied whenever data is to be stored.

## Main definitions

- `Session` — an encoder with the path of what is being stored
- `Datum.store` — the slot of typed data, by a session that keeps the path
- `Session.encode` — the same from an empty path

## Main statements

- `Session.encode_eq` — it makes no difference who keeps the path, nor what has been left on it
-/

namespace SqlFormula.Typed

/-- An encoder with the path of what is being stored. -/
structure Session where
  encoder : Encoder
  path : List Segment

/-- A new encoder, with nothing on the path. -/
def Session.new : Session :=
  ⟨.empty, []⟩

/-- A step that changes a session, and that may fail. -/
abbrev Storing := ExceptT EncodeError (StateM Session)

namespace Storing

variable {α β : Type}

/-- A step that changes only the encoder. -/
def building (step : Building α) : Storing α := fun s =>
  ((step.run s.encoder).1, { s with encoder := (step.run s.encoder).2 })

/-- What is found at the path. -/
def atPath (step : List Segment → Except EncodeError α) : Storing α := fun s =>
  (step s.path, s)

/-- A step for a part. The step to the part is put on the path, and taken off again unless the part fails. -/
def within (segment : Segment) (step : Storing α) : Storing α := fun s =>
  match step.run { s with path := s.path ++ [segment] } with
  | (.ok a, s') => (.ok a, { s' with path := s'.path.dropLast })
  | (.error error, s') => (.error error, s')

end Storing

namespace Datum

mutual

/-- Adds the containers of typed data that stands at the path, and gives its slot. -/
def store : Datum → Storing Slot
  | .nothing => pure (.value .null)
  | .boolean b => pure (.value (.boolean b))
  | .integer i => pure (.value (.integer i))
  | .unsigned n => Storing.atPath (unsignedSlot n)
  | .wide signed => Storing.atPath fun path => .error (.unsupported (.wide signed) path)
  | .float x => pure (.value (.float x))
  | .text s => pure (.value (.text s))
  | .bytes bs => pure (.value (.blob bs))
  | .wrapped d => d.store
  | .dateTime d => do
    let slot ← d.store
    Storing.atPath fun path => dateTimeSlot path slot
  | .sequence items => do
    let id ← Storing.building (Building.add Encoder.beginArray)
    storeItems id items
    return .container id
  | .mapping parts => do
    let id ← Storing.building (Building.add Encoder.beginObject)
    storeParts id none parts
    return .container id
  | .struct fields => do
    let id ← Storing.building (Building.add Encoder.beginObject)
    storeFields id fields
    return .container id
  | .unitVariant name => pure (.value (.text name))
  | .wrappedVariant name d => do
    let slot ← Storing.within (.field name) d.store
    let id ← Storing.building (Building.add Encoder.beginObject)
    Storing.building (Building.write (Encoder.insert id name slot))
    return .container id
  | .tupleVariant name items => do
    let outer ← Storing.building (Building.add Encoder.beginObject)
    let id ← Storing.building (Building.nest (Encoder.nestArray outer name))
    Storing.within (.field name) (storeItems id items)
    return .container outer
  | .structVariant name fields => do
    let outer ← Storing.building (Building.add Encoder.beginObject)
    let id ← Storing.building (Building.nest (Encoder.nestObject outer name))
    Storing.within (.field name) (storeFields id fields)
    return .container outer
  | .failing message => Storing.atPath fun _ => .error (.reported message)

/-- Adds items to an array. -/
def storeItems (id : Nat) : List Datum → Storing Unit
  | [] => pure ()
  | d :: ds => do
    let index ← Storing.building (Building.read (Encoder.itemCount id))
    let slot ← Storing.within (.item index) d.store
    Storing.building (Building.write (Encoder.push id slot))
    storeItems id ds

/-- Adds what is handed over for a map to an object, with the key of the next value. -/
def storeParts (id : Nat) (pending : Option String) : List MapPart → Storing Unit
  | [] => pure ()
  | .key d :: rest => do
    let slot ← d.store
    let key ← Storing.atPath fun path => keyOf path slot
    storeParts id (some key) rest
  | .value d :: rest =>
    match pending with
    | some key => do
      let slot ← Storing.within (.field key) d.store
      Storing.building (Building.write (Encoder.insert id key slot))
      storeParts id none rest
    | none => Storing.atPath fun _ => .error .missingKey

/-- Adds the fields of a structure to an object. -/
def storeFields (id : Nat) : List (String × Datum) → Storing Unit
  | [] => pure ()
  | (key, d) :: rest => do
    let slot ← Storing.within (.field key) d.store
    Storing.building (Building.write (Encoder.insert id key slot))
    storeFields id rest

end

end Datum

/-- The slot of typed data, from an empty path. -/
def Session.encode (d : Datum) (s : Session) : Except EncodeError Slot × Session :=
  d.store.run { s with path := [] }

/-! ### Steps with the path handed down -/

namespace Storing

variable {α β : Type}

/-- A session does what is done with its path handed down, and has the same path afterwards unless that fails. -/
def Tracks (step : Storing α) (handed : List Segment → Building α) : Prop :=
  ∀ s, (step.run s).1 = ((handed s.path).run s.encoder).1 ∧
    (step.run s).2.encoder = ((handed s.path).run s.encoder).2 ∧
    ∀ a, (step.run s).1 = .ok a → (step.run s).2.path = s.path

theorem tracks_pure (a : α) : Tracks (pure a) fun _ => pure a :=
  fun _ => ⟨rfl, rfl, fun _ _ => rfl⟩

theorem tracks_building (step : Building α) : Tracks (building step) fun _ => step :=
  fun _ => ⟨rfl, rfl, fun _ _ => rfl⟩

theorem tracks_atPath (step : List Segment → Except EncodeError α) :
    Tracks (atPath step) fun path => liftM (step path) := by
  intro s
  have hrun : (liftM (step s.path) : Building α).run s.encoder = (step s.path, s.encoder) := by
    cases step s.path with
    | ok a => rfl
    | error error => rfl
  rw [hrun]
  exact ⟨rfl, rfl, fun _ _ => rfl⟩

theorem Tracks.bind {step : Storing α} {handed : List Segment → Building α} {f : α → Storing β}
    {g : List Segment → α → Building β} (h : Tracks step handed) (hf : ∀ a, Tracks (f a) fun path => g path a) :
    Tracks (step >>= f) fun path => handed path >>= g path := by
  intro s
  obtain ⟨hresult, hencoder, hpath⟩ := h s
  rw [Building.run_bind, Building.run_bind, ← hresult, ← hencoder]
  cases ha : (step.run s).1 with
  | error error => exact ⟨rfl, rfl, nofun⟩
  | ok a =>
    -- the path is as before, so what comes next stands at the same place
    have hafter := hf a (step.run s).2
    rw [hpath a ha] at hafter
    exact hafter

theorem Tracks.within {step : Storing α} {handed : List Segment → Building α} (segment : Segment)
    (h : Tracks step handed) : Tracks (within segment step) fun path => handed (path ++ [segment]) := by
  intro s
  obtain ⟨hresult, hencoder, hpath⟩ := h { s with path := s.path ++ [segment] }
  simp only [Storing.within, ExceptT.run] at hresult hencoder hpath ⊢
  rw [← hresult, ← hencoder]
  generalize step { s with path := s.path ++ [segment] } = outcome at hpath ⊢
  obtain ⟨result, s'⟩ := outcome
  cases result with
  | error error => exact ⟨rfl, rfl, nofun⟩
  | ok a =>
    refine ⟨rfl, rfl, fun _ _ => ?_⟩
    show s'.path.dropLast = s.path
    rw [hpath a rfl, List.dropLast_concat]

end Storing

open Storing

namespace Datum

mutual

/-- **Typed data is stored alike whoever keeps the path.** -/
theorem tracks_store (d : Datum) : Tracks d.store fun path => d.build path := by
  cases d with
  | nothing => exact tracks_pure _
  | boolean b => exact tracks_pure _
  | integer i => exact tracks_pure _
  | unsigned n => exact tracks_atPath _
  | wide signed => exact tracks_atPath _
  | float x => exact tracks_pure _
  | text s => exact tracks_pure _
  | bytes bs => exact tracks_pure _
  | wrapped d => exact tracks_store d
  | dateTime d => exact (tracks_store d).bind fun slot => tracks_atPath _
  | sequence items =>
    exact (tracks_building _).bind fun id => (tracks_storeItems id items).bind fun _ => tracks_pure _
  | mapping parts =>
    exact (tracks_building _).bind fun id => (tracks_storeParts id none parts).bind fun _ => tracks_pure _
  | struct fields =>
    exact (tracks_building _).bind fun id => (tracks_storeFields id fields).bind fun _ => tracks_pure _
  | unitVariant name => exact tracks_pure _
  | wrappedVariant name d =>
    exact ((tracks_store d).within (.field name)).bind fun slot => (tracks_building _).bind fun id =>
      (tracks_building _).bind fun _ => tracks_pure _
  | tupleVariant name items =>
    exact (tracks_building _).bind fun outer => (tracks_building _).bind fun id =>
      ((tracks_storeItems id items).within (.field name)).bind fun _ => tracks_pure _
  | structVariant name fields =>
    exact (tracks_building _).bind fun outer => (tracks_building _).bind fun id =>
      ((tracks_storeFields id fields).within (.field name)).bind fun _ => tracks_pure _
  | failing message => exact tracks_atPath _

theorem tracks_storeItems (id : Nat) (ds : List Datum) :
    Tracks (storeItems id ds) fun path => buildItems id path ds := by
  match ds with
  | [] => exact tracks_pure ()
  | d :: ds =>
    exact (tracks_building _).bind fun index => ((tracks_store d).within (.item index)).bind fun slot =>
      (tracks_building _).bind fun _ => tracks_storeItems id ds

theorem tracks_storeParts (id : Nat) (pending : Option String) (ps : List MapPart) :
    Tracks (storeParts id pending ps) fun path => buildParts id path pending ps := by
  match ps, pending with
  | [], _ => exact tracks_pure ()
  | .key d :: rest, _ =>
    exact (tracks_store d).bind fun slot => (tracks_atPath _).bind fun key => tracks_storeParts id (some key) rest
  | .value d :: rest, none => exact tracks_atPath _
  | .value d :: rest, some key =>
    exact ((tracks_store d).within (.field key)).bind fun slot => (tracks_building _).bind fun _ =>
      tracks_storeParts id none rest

theorem tracks_storeFields (id : Nat) (fs : List (String × Datum)) :
    Tracks (storeFields id fs) fun path => buildFields id path fs := by
  match fs with
  | [] => exact tracks_pure ()
  | (key, d) :: rest =>
    exact ((tracks_store d).within (.field key)).bind fun slot => (tracks_building _).bind fun _ =>
      tracks_storeFields id rest

end

end Datum

/-- **What has been left on the path makes no difference,** neither to the slot nor to the error. -/
theorem Session.encode_eq (d : Datum) (s : Session) :
    (s.encode d).1 = ((d.build []).run s.encoder).1 ∧ (s.encode d).2.encoder = ((d.build []).run s.encoder).2 := by
  obtain ⟨hresult, hencoder, -⟩ := Datum.tracks_store d { s with path := [] }
  exact ⟨hresult, hencoder⟩

/-- A part that fails leaves its place on the path. -/
example : (Session.encode (.sequence [.nothing, .failing "refused"]) .new).2.path = [.item 1] := by
  cbv

end SqlFormula.Typed
