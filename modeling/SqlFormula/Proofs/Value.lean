import SqlFormula.Value

/-!
# Induction over values

Values nest through lists of items and of entries. The lemmas here turn what is said of such lists, one part after
the other, into what holds of each part.

## Main definitions

- `Value.HasInstant` — a date and time somewhere in a value

## Main statements

- `Value.induction` — what passes from the parts of a container to the container holds of every value
- `Value.depth_array_le`, `Value.depth_object_le` — the depth of a container is bounded by that of its parts
-/

namespace SqlFormula

namespace Value

/-- A value without parts. -/
def IsScalar : Value → Prop
  | .array _ | .object _ => False
  | _ => True

/-- What passes from the parts of a container to the container holds of every value. -/
@[elab_as_elim]
theorem induction {P : Value → Prop} (scalar : ∀ v : Value, v.IsScalar → P v)
    (array : ∀ items : List Value, (∀ v ∈ items, P v) → P (.array items))
    (object : ∀ entries : List (String × Value), (∀ e ∈ entries, P e.2) → P (.object entries)) (v : Value) : P v :=
  match v with
  | .null => scalar _ trivial
  | .boolean _ => scalar _ trivial
  | .integer _ => scalar _ trivial
  | .float _ => scalar _ trivial
  | .text _ => scalar _ trivial
  | .blob _ => scalar _ trivial
  | .dateTime _ => scalar _ trivial
  | .array items => array items fun v _hv => induction scalar array object v
  | .object entries => object entries fun e _he => induction scalar array object e.2
termination_by sizeOf v
decreasing_by
  · have := List.sizeOf_lt_of_mem _hv
    simp only [Value.array.sizeOf_spec]
    omega
  · have hmem := List.sizeOf_lt_of_mem _he
    have hsnd : sizeOf e.2 < sizeOf e := by
      obtain ⟨k, w⟩ := e
      simp only [Prod.mk.sizeOf_spec]
      omega
    simp only [Value.object.sizeOf_spec]
    omega

/-! ### Well-formed values -/

theorem wellFormedItems_iff {items : List Value} : WellFormedItems items ↔ ∀ v ∈ items, v.WellFormed := by
  induction items with
  | nil => simp [WellFormedItems]
  | cons v vs ih => simp [WellFormedItems, ih]

theorem wellFormedEntries_iff {entries : List (String × Value)} :
    WellFormedEntries entries ↔ ∀ e ∈ entries, e.2.WellFormed := by
  induction entries with
  | nil => simp [WellFormedEntries]
  | cons e rest ih => simp [WellFormedEntries, ih]

theorem wellFormed_array {items : List Value} : (array items).WellFormed ↔ ∀ v ∈ items, v.WellFormed := by
  rw [WellFormed, wellFormedItems_iff]

theorem wellFormed_object {entries : List (String × Value)} :
    (object entries).WellFormed ↔ Entries.Sorted entries ∧ ∀ e ∈ entries, e.2.WellFormed := by
  rw [WellFormed, wellFormedEntries_iff]

/-! ### Depth -/

theorem depthItems_le_iff {items : List Value} {n : Nat} : depthItems items ≤ n ↔ ∀ v ∈ items, v.depth ≤ n := by
  induction items with
  | nil => simp [depthItems]
  | cons v vs ih => rw [depthItems, Nat.max_le, ih, List.forall_mem_cons]

theorem depthEntries_le_iff {entries : List (String × Value)} {n : Nat} :
    depthEntries entries ≤ n ↔ ∀ e ∈ entries, e.2.depth ≤ n := by
  induction entries with
  | nil => simp [depthEntries]
  | cons e rest ih => rw [depthEntries, Nat.max_le, ih, List.forall_mem_cons]

theorem depth_array_le {items : List Value} {n : Nat} :
    (array items).depth ≤ n + 1 ↔ ∀ v ∈ items, v.depth ≤ n := by
  rw [depth, Nat.add_le_add_iff_right, depthItems_le_iff]

theorem depth_object_le {entries : List (String × Value)} {n : Nat} :
    (object entries).depth ≤ n + 1 ↔ ∀ e ∈ entries, e.2.depth ≤ n := by
  rw [depth, Nat.add_le_add_iff_right, depthEntries_le_iff]

theorem depth_of_isScalar {v : Value} (h : v.IsScalar) : v.depth = 0 := by
  cases v with
  | array items => exact h.elim
  | object entries => exact h.elim
  | _ => rfl

/-! ### Parts -/

/-- A date and time somewhere in a value. -/
inductive HasInstant (t : Instant) : Value → Prop
  | self : HasInstant t (.dateTime t)
  | item {items : List Value} {v : Value} : v ∈ items → HasInstant t v → HasInstant t (.array items)
  | entry {entries : List (String × Value)} {e : String × Value} :
    e ∈ entries → HasInstant t e.2 → HasInstant t (.object entries)

theorem hasInstant_dateTime {t u : Instant} : HasInstant t (.dateTime u) ↔ t = u := by
  constructor
  · rintro ⟨⟩
    rfl
  · rintro rfl
    exact .self

theorem hasInstant_array {t : Instant} {items : List Value} :
    HasInstant t (.array items) ↔ ∃ v ∈ items, HasInstant t v := by
  constructor
  · rintro (_ | ⟨hmem, h⟩)
    exact ⟨_, hmem, h⟩
  · rintro ⟨v, hmem, h⟩
    exact .item hmem h

theorem hasInstant_object {t : Instant} {entries : List (String × Value)} :
    HasInstant t (.object entries) ↔ ∃ e ∈ entries, HasInstant t e.2 := by
  constructor
  · rintro (_ | _ | ⟨hmem, h⟩)
    exact ⟨_, hmem, h⟩
  · rintro ⟨e, hmem, h⟩
    exact .entry hmem h

end Value

end SqlFormula
