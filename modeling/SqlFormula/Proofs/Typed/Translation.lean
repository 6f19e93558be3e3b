import SqlFormula.Typed.Encode

/-!
# What typed data means

Typed data is stored by way of containers that are written to one after the other. What comes out of it can be said
without them: which value the data stands for, and which of its parts no value can hold.

## Main definitions

- `Datum.translation` — the value that typed data stands for, if there is one
- `Datum.faults` — the points of typed data that cannot be stored, in the order in which they are met
- `EncodeError.IsFault` — the errors of such points

## Main statements

- `Datum.isFault_of_mem_faults` — there are no others
-/

namespace SqlFormula.Typed

/-- The text that a value is. -/
def textOf? : Option Value → Option String
  | some (.text s) => some s
  | _ => none

namespace Datum

mutual

/-- The value that typed data stands for, if there is one. -/
def translation : Datum → Option Value
  | .nothing => some .null
  | .boolean b => some (.boolean b)
  | .integer i => some (.integer i)
  | .unsigned n => if Number.Fits n.toNat then some (.integer (Int64.ofNat n.toNat)) else none
  | .wide _ => none
  | .float x => some (.float x)
  | .text s => some (.text s)
  | .bytes bs => some (.blob bs)
  | .wrapped d => d.translation
  | .dateTime d => ((textOf? d.translation).bind Instant.ofText?).map .dateTime
  | .sequence items => (itemTranslations items).map .array
  | .mapping parts => (partTranslations none parts).map fun entries => .object (Entries.ofList entries)
  | .struct fields => (fieldTranslations fields).map fun entries => .object (Entries.ofList entries)
  | .unitVariant name => some (.text name)
  | .wrappedVariant name d => d.translation.map fun v => .object [(name, v)]
  | .tupleVariant name items => (itemTranslations items).map fun vs => .object [(name, .array vs)]
  | .structVariant name fields =>
    (fieldTranslations fields).map fun entries => .object [(name, .object (Entries.ofList entries))]
  | .failing _ => none

/-- The values of items. -/
def itemTranslations : List Datum → Option (List Value)
  | [] => some []
  | d :: ds => d.translation.bind fun v => (itemTranslations ds).map fun vs => v :: vs

/-- The entries of a map, in the order in which their values are met. A key that another key follows, or nothing,
is left out. -/
def partTranslations (pending : Option String) : List MapPart → Option (List (String × Value))
  | [] => some []
  | .key d :: rest => (textOf? d.translation).bind fun key => partTranslations (some key) rest
  | .value d :: rest => pending.bind fun key => d.translation.bind fun v =>
    (partTranslations none rest).map fun entries => (key, v) :: entries

/-- The entries of a structure, in the order of its fields. -/
def fieldTranslations : List (String × Datum) → Option (List (String × Value))
  | [] => some []
  | (key, d) :: rest => d.translation.bind fun v => (fieldTranslations rest).map fun entries => (key, v) :: entries

end

mutual

/-- The errors of all points of typed data that cannot be stored, in the order in which they are met. The data stands
at a path. -/
def faults (path : List Segment) : Datum → List EncodeError
  | .unsigned n => if Number.Fits n.toNat then [] else [.unsupported .largeUnsigned path]
  | .wide signed => [.unsupported (.wide signed) path]
  | .wrapped d => d.faults path
  | .dateTime d => d.faults path ++ match d.translation with
    | some (.text s) => if (Instant.ofText? s).isSome then [] else [.invalidDateTime s]
    | some _ => [.unsupported .dateTime path]
    | none => []
  | .sequence items => itemFaults path 0 items
  | .mapping parts => partFaults path none parts
  | .struct fields => fieldFaults path fields
  | .wrappedVariant name d => d.faults (path ++ [.field name])
  | .tupleVariant name items => itemFaults (path ++ [.field name]) 0 items
  | .structVariant name fields => fieldFaults (path ++ [.field name]) fields
  | .failing message => [.reported message]
  | .nothing | .boolean _ | .integer _ | .float _ | .text _ | .bytes _ | .unitVariant _ => []

/-- The errors of items, of which the first is number `index`. -/
def itemFaults (path : List Segment) (index : Nat) : List Datum → List EncodeError
  | [] => []
  | d :: ds => d.faults (path ++ [.item index]) ++ itemFaults path (index + 1) ds

/-- The errors of a map: those of its keys and values, keys that are not texts, and values without keys. -/
def partFaults (path : List Segment) (pending : Option String) : List MapPart → List EncodeError
  | [] => []
  | .key d :: rest =>
    d.faults path ++ (match d.translation with
      | some (.text _) | none => []
      | some _ => [.unsupported .key path]) ++ partFaults path (textOf? d.translation) rest
  | .value d :: rest =>
    (match pending with
      | some key => d.faults (path ++ [.field key])
      | none => [.missingKey]) ++ partFaults path none rest

/-- The errors of the fields of a structure. -/
def fieldFaults (path : List Segment) : List (String × Datum) → List EncodeError
  | [] => []
  | (key, d) :: rest => d.faults (path ++ [.field key]) ++ fieldFaults path rest

end

end Datum

/-- The errors of data that no value can hold, as opposed to those of containers. -/
def EncodeError.IsFault : EncodeError → Prop
  | .unsupported .. | .invalidDateTime _ | .missingKey | .reported _ => True
  | .mismatch .. | .reused _ => False

namespace Datum

mutual

/-- Faults are errors of the data. -/
theorem isFault_of_mem_faults (path : List Segment) (d : Datum) : ∀ error ∈ d.faults path, error.IsFault := by
  intro error h
  cases d with
  | unsigned n =>
    rw [faults] at h
    split at h
    · nomatch h
    · rw [List.mem_singleton.1 h]
      trivial
  | wide signed =>
    rw [List.mem_singleton.1 h]
    trivial
  | wrapped d => exact isFault_of_mem_faults path d error h
  | dateTime d =>
    rw [faults] at h
    obtain h | h := List.mem_append.1 h
    · exact isFault_of_mem_faults path d error h
    · split at h
      · split at h
        · nomatch h
        · rw [List.mem_singleton.1 h]
          trivial
      · rw [List.mem_singleton.1 h]
        trivial
      · nomatch h
  | sequence items => exact isFault_of_mem_itemFaults path 0 items error h
  | mapping parts => exact isFault_of_mem_partFaults path none parts error h
  | struct fields => exact isFault_of_mem_fieldFaults path fields error h
  | wrappedVariant name d => exact isFault_of_mem_faults _ d error h
  | tupleVariant name items => exact isFault_of_mem_itemFaults _ 0 items error h
  | structVariant name fields => exact isFault_of_mem_fieldFaults _ fields error h
  | failing message =>
    rw [List.mem_singleton.1 h]
    trivial
  | _ => nomatch h

theorem isFault_of_mem_itemFaults (path : List Segment) (index : Nat) (ds : List Datum) :
    ∀ error ∈ itemFaults path index ds, error.IsFault := by
  intro error h
  match ds with
  | [] => nomatch h
  | d :: ds =>
    rw [itemFaults] at h
    obtain h | h := List.mem_append.1 h
    · exact isFault_of_mem_faults _ d error h
    · exact isFault_of_mem_itemFaults path (index + 1) ds error h

theorem isFault_of_mem_partFaults (path : List Segment) (pending : Option String) (ps : List MapPart) :
    ∀ error ∈ partFaults path pending ps, error.IsFault := by
  intro error h
  match ps, pending with
  | [], _ => nomatch h
  | .key d :: rest, _ =>
    rw [partFaults] at h
    obtain h | h := List.mem_append.1 h
    · obtain h | h := List.mem_append.1 h
      · exact isFault_of_mem_faults path d error h
      · split at h
        · nomatch h
        · nomatch h
        · rw [List.mem_singleton.1 h]
          trivial
    · exact isFault_of_mem_partFaults path _ rest error h
  | .value d :: rest, some key =>
    rw [partFaults] at h
    obtain h | h := List.mem_append.1 h
    · exact isFault_of_mem_faults _ d error h
    · exact isFault_of_mem_partFaults path none rest error h
  | .value d :: rest, none =>
    rw [partFaults] at h
    obtain h | h := List.mem_append.1 h
    · rw [List.mem_singleton.1 h]
      trivial
    · exact isFault_of_mem_partFaults path none rest error h

theorem isFault_of_mem_fieldFaults (path : List Segment) (fs : List (String × Datum)) :
    ∀ error ∈ fieldFaults path fs, error.IsFault := by
  intro error h
  match fs with
  | [] => nomatch h
  | (key, d) :: rest =>
    rw [fieldFaults] at h
    obtain h | h := List.mem_append.1 h
    · exact isFault_of_mem_faults _ d error h
    · exact isFault_of_mem_fieldFaults path rest error h

end

end Datum

end SqlFormula.Typed
