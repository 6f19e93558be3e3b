import Mathlib
import SqlFormula.Proofs.Typed.Session

/-!
# Where storing typed data stops

Storing typed data stops at the first part that no value can hold. The place of the part is said here by a recursion over
the data, with the steps from the whole to the part put before each other. The path in the error of an encoder, which keeps
it on a stack, is this place: nothing of the parts before is left on it, and nothing is missing.

## Main definitions

- `Datum.StopsAt` — no value can hold the part at a path, and all parts before it can be stored

## Main statements

- `Datum.faults_eq_nil_iff` — data without faults stands for a value
- `Datum.head?_faults_iff` — the first fault of data is at the place where storing it stops
- `Datum.encode_eq_unsupported_iff` — so is the path in the error
-/

namespace SqlFormula.Typed

namespace Datum

mutual

/-- No value can hold the part of typed data to which a path leads, for some reason. All parts that are met before can be
stored. -/
inductive StopsAt : Datum → List Segment → Unsupported → Prop
  | unsigned {n : UInt64} (h : ¬Number.Fits n.toNat) : StopsAt (.unsigned n) [] .largeUnsigned
  | wide (signed : Bool) : StopsAt (.wide signed) [] (.wide signed)
  | wrapped {d : Datum} {path : List Segment} {kind : Unsupported} (h : StopsAt d path kind) :
    StopsAt (.wrapped d) path kind
  | dateTime {d : Datum} {path : List Segment} {kind : Unsupported} (h : StopsAt d path kind) :
    StopsAt (.dateTime d) path kind
  /-- A date and time whose content stands for something else than a text. -/
  | dateTimeContent {d : Datum} {v : Value} (hv : d.translation = some v) (htext : ∀ s, v ≠ .text s) :
    StopsAt (.dateTime d) [] .dateTime
  | sequence {items : List Datum} {path : List Segment} {kind : Unsupported} (h : ItemsStopAt 0 items path kind) :
    StopsAt (.sequence items) path kind
  | mapping {parts : List MapPart} {path : List Segment} {kind : Unsupported} (h : PartsStopAt none parts path kind) :
    StopsAt (.mapping parts) path kind
  | struct {fields : List (String × Datum)} {path : List Segment} {kind : Unsupported}
    (h : FieldsStopAt fields path kind) : StopsAt (.struct fields) path kind
  | wrappedVariant {name : String} {d : Datum} {path : List Segment} {kind : Unsupported} (h : StopsAt d path kind) :
    StopsAt (.wrappedVariant name d) (.field name :: path) kind
  | tupleVariant {name : String} {items : List Datum} {path : List Segment} {kind : Unsupported}
    (h : ItemsStopAt 0 items path kind) : StopsAt (.tupleVariant name items) (.field name :: path) kind
  | structVariant {name : String} {fields : List (String × Datum)} {path : List Segment} {kind : Unsupported}
    (h : FieldsStopAt fields path kind) : StopsAt (.structVariant name fields) (.field name :: path) kind

/-- The same for items, of which the first is number `index`. -/
inductive ItemsStopAt : Nat → List Datum → List Segment → Unsupported → Prop
  | here {index : Nat} {d : Datum} {ds : List Datum} {path : List Segment} {kind : Unsupported}
    (h : StopsAt d path kind) : ItemsStopAt index (d :: ds) (.item index :: path) kind
  | later {index : Nat} {d : Datum} {ds : List Datum} {v : Value} {path : List Segment} {kind : Unsupported}
    (hv : d.translation = some v) (h : ItemsStopAt (index + 1) ds path kind) : ItemsStopAt index (d :: ds) path kind

/-- The same for what is handed over for a map, where the next value may have a key. A key stands where its map does. -/
inductive PartsStopAt : Option String → List MapPart → List Segment → Unsupported → Prop
  | key {pending : Option String} {d : Datum} {rest : List MapPart} {path : List Segment} {kind : Unsupported}
    (h : StopsAt d path kind) : PartsStopAt pending (.key d :: rest) path kind
  /-- A key that stands for something else than a text. -/
  | keyContent {pending : Option String} {d : Datum} {v : Value} {rest : List MapPart} (hv : d.translation = some v)
    (htext : ∀ s, v ≠ .text s) : PartsStopAt pending (.key d :: rest) [] .key
  | afterKey {pending : Option String} {d : Datum} {name : String} {rest : List MapPart} {path : List Segment}
    {kind : Unsupported} (hname : d.translation = some (.text name)) (h : PartsStopAt (some name) rest path kind) :
    PartsStopAt pending (.key d :: rest) path kind
  | value {name : String} {d : Datum} {rest : List MapPart} {path : List Segment} {kind : Unsupported}
    (h : StopsAt d path kind) : PartsStopAt (some name) (.value d :: rest) (.field name :: path) kind
  | afterValue {name : String} {d : Datum} {v : Value} {rest : List MapPart} {path : List Segment} {kind : Unsupported}
    (hv : d.translation = some v) (h : PartsStopAt none rest path kind) :
    PartsStopAt (some name) (.value d :: rest) path kind

/-- The same for the fields of a structure. -/
inductive FieldsStopAt : List (String × Datum) → List Segment → Unsupported → Prop
  | here {name : String} {d : Datum} {rest : List (String × Datum)} {path : List Segment} {kind : Unsupported}
    (h : StopsAt d path kind) : FieldsStopAt ((name, d) :: rest) (.field name :: path) kind
  | later {name : String} {d : Datum} {v : Value} {rest : List (String × Datum)} {path : List Segment}
    {kind : Unsupported} (hv : d.translation = some v) (h : FieldsStopAt rest path kind) :
    FieldsStopAt ((name, d) :: rest) path kind

end

/-! ### Data without faults -/

/-- Data has faults unless it stands for a value. -/
theorem faults_eq_nil_iff {d : Datum} {path : List Segment} : d.faults path = [] ↔ ∃ v, d.translation = some v := by
  obtain ⟨slot, v, e, -, hfaults, htranslation, -⟩ | ⟨error, e, -, hhead, htranslation⟩ :=
    yields_build path d Encoder.empty
  · exact iff_of_true hfaults ⟨v, htranslation⟩
  · refine iff_of_false (fun hnil => ?_) ?_
    · rw [hnil] at hhead
      cases hhead
    · rintro ⟨v, hv⟩
      rw [htranslation] at hv
      cases hv

/-- The first fault is one of the data, or else the data stands for a value and the first fault comes later. -/
theorem head?_faults_append {d : Datum} {path : List Segment} {later : List EncodeError} {error : EncodeError} :
    (d.faults path ++ later).head? = some error ↔
      (d.faults path).head? = some error ∨ (∃ v, d.translation = some v) ∧ later.head? = some error := by
  rw [List.head?_append, Option.or_eq_some_iff, List.head?_eq_none_iff, faults_eq_nil_iff]

/-! ### The steps to a part -/

section

variable {path place : List Segment} {kind : Unsupported}

/-- A place in a part is one in the whole, with the step to the part before it. -/
theorem exists_step_iff {P : List Segment → Prop} (step : Segment) :
    (∃ rest, place = path ++ [step] ++ rest ∧ P rest) ↔
      ∃ rest, place = path ++ rest ∧ ∃ inner, rest = step :: inner ∧ P inner := by
  constructor
  · rintro ⟨rest, rfl, h⟩
    exact ⟨step :: rest, (List.append_cons path step rest).symm, rest, rfl, h⟩
  · rintro ⟨_, rfl, rest, rfl, h⟩
    exact ⟨rest, List.append_cons path step rest, h⟩

theorem stopsAt_unsigned {n : UInt64} :
    StopsAt (.unsigned n) path kind ↔ path = [] ∧ kind = .largeUnsigned ∧ ¬Number.Fits n.toNat :=
  ⟨fun | .unsigned h => ⟨rfl, rfl, h⟩, fun ⟨hpath, hkind, h⟩ => hpath ▸ hkind ▸ .unsigned h⟩

theorem stopsAt_wide {signed : Bool} : StopsAt (.wide signed) path kind ↔ path = [] ∧ kind = .wide signed :=
  ⟨fun | .wide _ => ⟨rfl, rfl⟩, fun ⟨hpath, hkind⟩ => hpath ▸ hkind ▸ .wide signed⟩

theorem stopsAt_wrapped {d : Datum} : StopsAt (.wrapped d) path kind ↔ StopsAt d path kind :=
  ⟨fun | .wrapped h => h, .wrapped⟩

theorem stopsAt_dateTime {d : Datum} : StopsAt (.dateTime d) path kind ↔
    StopsAt d path kind ∨ path = [] ∧ kind = .dateTime ∧ ∃ v, d.translation = some v ∧ ∀ s, v ≠ .text s := by
  constructor
  · rintro (_ | _ | _ | h | ⟨hv, htext⟩)
    · exact .inl h
    · exact .inr ⟨rfl, rfl, _, hv, htext⟩
  · rintro (h | ⟨rfl, rfl, v, hv, htext⟩)
    · exact .dateTime h
    · exact .dateTimeContent hv htext

theorem stopsAt_sequence {items : List Datum} :
    StopsAt (.sequence items) path kind ↔ ItemsStopAt 0 items path kind :=
  ⟨fun | .sequence h => h, .sequence⟩

theorem stopsAt_mapping {parts : List MapPart} :
    StopsAt (.mapping parts) path kind ↔ PartsStopAt none parts path kind :=
  ⟨fun | .mapping h => h, .mapping⟩

theorem stopsAt_struct {fields : List (String × Datum)} :
    StopsAt (.struct fields) path kind ↔ FieldsStopAt fields path kind :=
  ⟨fun | .struct h => h, .struct⟩

theorem stopsAt_wrappedVariant {name : String} {d : Datum} :
    StopsAt (.wrappedVariant name d) path kind ↔ ∃ inner, path = .field name :: inner ∧ StopsAt d inner kind :=
  ⟨fun | .wrappedVariant h => ⟨_, rfl, h⟩, fun ⟨_, hpath, h⟩ => hpath ▸ .wrappedVariant h⟩

theorem stopsAt_tupleVariant {name : String} {items : List Datum} :
    StopsAt (.tupleVariant name items) path kind ↔
      ∃ inner, path = .field name :: inner ∧ ItemsStopAt 0 items inner kind :=
  ⟨fun | .tupleVariant h => ⟨_, rfl, h⟩, fun ⟨_, hpath, h⟩ => hpath ▸ .tupleVariant h⟩

theorem stopsAt_structVariant {name : String} {fields : List (String × Datum)} :
    StopsAt (.structVariant name fields) path kind ↔
      ∃ inner, path = .field name :: inner ∧ FieldsStopAt fields inner kind :=
  ⟨fun | .structVariant h => ⟨_, rfl, h⟩, fun ⟨_, hpath, h⟩ => hpath ▸ .structVariant h⟩

theorem itemsStopAt_cons {index : Nat} {d : Datum} {ds : List Datum} : ItemsStopAt index (d :: ds) path kind ↔
    (∃ inner, path = .item index :: inner ∧ StopsAt d inner kind) ∨
      (∃ v, d.translation = some v) ∧ ItemsStopAt (index + 1) ds path kind := by
  constructor
  · rintro (h | ⟨hv, h⟩)
    · exact .inl ⟨_, rfl, h⟩
    · exact .inr ⟨⟨_, hv⟩, h⟩
  · rintro (⟨_, rfl, h⟩ | ⟨⟨v, hv⟩, h⟩)
    · exact .here h
    · exact .later hv h

theorem partsStopAt_key {pending : Option String} {d : Datum} {rest : List MapPart} :
    PartsStopAt pending (.key d :: rest) path kind ↔
      StopsAt d path kind ∨
        (path = [] ∧ kind = .key ∧ ∃ v, d.translation = some v ∧ ∀ s, v ≠ .text s) ∨
        ∃ name, d.translation = some (.text name) ∧ PartsStopAt (some name) rest path kind := by
  constructor
  · rintro (h | ⟨hv, htext⟩ | ⟨hname, h⟩)
    · exact .inl h
    · exact .inr (.inl ⟨rfl, rfl, _, hv, htext⟩)
    · exact .inr (.inr ⟨_, hname, h⟩)
  · rintro (h | ⟨rfl, rfl, v, hv, htext⟩ | ⟨name, hname, h⟩)
    · exact .key h
    · exact .keyContent hv htext
    · exact .afterKey hname h

theorem partsStopAt_value {name : String} {d : Datum} {rest : List MapPart} :
    PartsStopAt (some name) (.value d :: rest) path kind ↔
      (∃ inner, path = .field name :: inner ∧ StopsAt d inner kind) ∨
        (∃ v, d.translation = some v) ∧ PartsStopAt none rest path kind := by
  constructor
  · rintro (_ | _ | _ | h | ⟨hv, h⟩)
    · exact .inl ⟨_, rfl, h⟩
    · exact .inr ⟨⟨_, hv⟩, h⟩
  · rintro (⟨_, rfl, h⟩ | ⟨⟨v, hv⟩, h⟩)
    · exact .value h
    · exact .afterValue hv h

theorem fieldsStopAt_cons {name : String} {d : Datum} {rest : List (String × Datum)} :
    FieldsStopAt ((name, d) :: rest) path kind ↔
      (∃ inner, path = .field name :: inner ∧ StopsAt d inner kind) ∨
        (∃ v, d.translation = some v) ∧ FieldsStopAt rest path kind := by
  constructor
  · rintro (h | ⟨hv, h⟩)
    · exact .inl ⟨_, rfl, h⟩
    · exact .inr ⟨⟨_, hv⟩, h⟩
  · rintro (⟨_, rfl, h⟩ | ⟨⟨v, hv⟩, h⟩)
    · exact .here h
    · exact .later hv h

/-! ### The first fault -/

theorem exists_nil_iff {Q : Prop} : (∃ rest, place = path ++ rest ∧ rest = [] ∧ Q) ↔ place = path ∧ Q := by
  constructor
  · rintro ⟨_, rfl, rfl, h⟩
    exact ⟨List.append_nil path, h⟩
  · rintro ⟨rfl, h⟩
    exact ⟨[], (List.append_nil place).symm, rfl, h⟩

/-- The first fault of a list is where storing the list stops. -/
theorem exists_or_iff {P Q : List Segment → Prop} {R : Prop} :
    (∃ rest, place = path ++ rest ∧ (P rest ∨ R ∧ Q rest)) ↔
      (∃ rest, place = path ++ rest ∧ P rest) ∨ R ∧ ∃ rest, place = path ++ rest ∧ Q rest := by
  constructor
  · rintro ⟨rest, hplace, h | ⟨hR, h⟩⟩
    · exact .inl ⟨rest, hplace, h⟩
    · exact .inr ⟨hR, rest, hplace, h⟩
  · rintro (⟨rest, hplace, h⟩ | ⟨hR, rest, hplace, h⟩)
    · exact ⟨rest, hplace, .inl h⟩
    · exact ⟨rest, hplace, .inr ⟨hR, h⟩⟩

mutual

/-- **The first fault of data is at the place where storing it stops.** -/
theorem head?_faults_iff (path : List Segment) (d : Datum) :
    (d.faults path).head? = some (.unsupported kind place) ↔ ∃ rest, place = path ++ rest ∧ d.StopsAt rest kind := by
  cases d with
  | unsigned n =>
    simp only [faults, stopsAt_unsigned, exists_nil_iff]
    by_cases hfits : Number.Fits n.toNat
    · simp [hfits]
    · simp [hfits, eq_comm, and_comm]
  | wide signed => simp [faults, stopsAt_wide, exists_nil_iff, eq_comm, and_comm]
  | wrapped d => simp only [faults, stopsAt_wrapped, head?_faults_iff path d]
  | dateTime d =>
    rw [faults, head?_faults_append, head?_faults_iff path d]
    simp only [stopsAt_dateTime, and_or_left, exists_or, exists_nil_iff]
    refine or_congr_right ?_
    cases d.translation with
    | none => simp
    | some v =>
      cases v with
      | text s => by_cases hdate : (Instant.ofText? s).isSome = true <;> simp [hdate]
      | _ => simp [eq_comm, and_comm]
  | sequence items => simp only [faults, stopsAt_sequence, head?_itemFaults_iff path 0 items]
  | mapping parts => simp only [faults, stopsAt_mapping, head?_partFaults_iff path none parts]
  | struct fields => simp only [faults, stopsAt_struct, head?_fieldFaults_iff path fields]
  | wrappedVariant name d =>
    simp only [faults, stopsAt_wrappedVariant, head?_faults_iff (path ++ [.field name]) d, exists_step_iff]
  | tupleVariant name items =>
    simp only [faults, stopsAt_tupleVariant, head?_itemFaults_iff (path ++ [.field name]) 0 items, exists_step_iff]
  | structVariant name fields =>
    simp only [faults, stopsAt_structVariant, head?_fieldFaults_iff (path ++ [.field name]) fields, exists_step_iff]
  | failing message => exact iff_of_false nofun nofun
  | _ => exact iff_of_false nofun nofun

theorem head?_itemFaults_iff (path : List Segment) (index : Nat) (ds : List Datum) :
    (itemFaults path index ds).head? = some (.unsupported kind place) ↔
      ∃ rest, place = path ++ rest ∧ ItemsStopAt index ds rest kind := by
  match ds with
  | [] => exact iff_of_false nofun nofun
  | d :: ds =>
    rw [itemFaults, head?_faults_append, head?_faults_iff _ d, head?_itemFaults_iff path (index + 1) ds]
    simp only [itemsStopAt_cons, exists_or_iff, exists_step_iff]

theorem head?_partFaults_iff (path : List Segment) (pending : Option String) (ps : List MapPart) :
    (partFaults path pending ps).head? = some (.unsupported kind place) ↔
      ∃ rest, place = path ++ rest ∧ PartsStopAt pending ps rest kind := by
  match ps, pending with
  | [], _ => exact iff_of_false nofun nofun
  | .key d :: rest, _ =>
    rw [partFaults, List.append_assoc, head?_faults_append, head?_faults_iff path d]
    simp only [partsStopAt_key, and_or_left, exists_or, exists_nil_iff]
    refine or_congr_right ?_
    cases d.translation with
    | none => simp
    | some v =>
      cases v with
      | text name => simp [textOf?, head?_partFaults_iff path (some name) rest]
      | _ => simp [eq_comm, and_comm]
  | .value d :: rest, none => exact iff_of_false nofun nofun
  | .value d :: rest, some name =>
    rw [partFaults, head?_faults_append, head?_faults_iff _ d, head?_partFaults_iff path none rest]
    simp only [partsStopAt_value, exists_or_iff, exists_step_iff]

theorem head?_fieldFaults_iff (path : List Segment) (fs : List (String × Datum)) :
    (fieldFaults path fs).head? = some (.unsupported kind place) ↔
      ∃ rest, place = path ++ rest ∧ FieldsStopAt fs rest kind := by
  match fs with
  | [] => exact iff_of_false nofun nofun
  | (name, d) :: rest =>
    rw [fieldFaults, head?_faults_append, head?_faults_iff _ d, head?_fieldFaults_iff path rest]
    simp only [fieldsStopAt_cons, exists_or_iff, exists_step_iff]

end

end

end Datum

/-! ### Encoders -/

/-- An encoder that keeps the path fails with the first fault of the data. -/
theorem Session.encode_eq_error_iff {d : Datum} {s : Session} {error : EncodeError} :
    (s.encode d).1 = .error error ↔ (d.faults []).head? = some error := by
  rw [(s.encode_eq d).1]
  obtain ⟨slot, v, e, hrun, hfaults, -⟩ | ⟨error', e, hrun, hhead, -⟩ := Datum.yields_build [] d s.encoder
  · rw [hrun, hfaults]
    exact iff_of_false nofun nofun
  · rw [hrun, hhead, Except.error.injEq, Option.some.injEq]

namespace Datum

/-- **The path in the error is the place of the part that no value can hold**, for every encoder, whatever it has been left
with by data stored before, and for data that is stored on its own. -/
theorem encode_eq_unsupported_iff (d : Datum) (kind : Unsupported) (path : List Segment) :
    (∀ s : Session, (s.encode d).1 = .error (.unsupported kind path) ↔ d.StopsAt path kind) ∧
      (d.toValue = .error (.unsupported kind path) ↔ d.StopsAt path kind) := by
  have hplace : (d.faults []).head? = some (.unsupported kind path) ↔ d.StopsAt path kind := by
    rw [head?_faults_iff]
    simp
  constructor
  · intro s
    rw [Session.encode_eq_error_iff, hplace]
  · rw [(toValue_iff d).2.1, hplace]

/-- An item, a field and a variant lead to an integer of 128 bits, after parts of other kinds. -/
example : (sequence [.nothing, .struct [("id", .integer 1), ("size", .wrappedVariant "Wide" (.wide false))]]).toValue =
    .error (.unsupported (.wide false) [.item 1, .field "size", .field "Wide"]) := by
  cbv

/-- The path as it is shown. -/
example : (EncodeError.unsupported (.wide false) [.item 1, .field "size", .field "Wide"]).message =
    "Unsupported type u128 at $[1].size.Wide" := by
  decide

end Datum

end SqlFormula.Typed
