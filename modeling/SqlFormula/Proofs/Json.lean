import SqlFormula.Entries
import SqlFormula.Json
import SqlFormula.Number.Binary64

/-!
# Induction over documents

A document holds others at any depth. What the notation for documents guarantees is said of these parts: there are no
numbers beyond the doubles, and the members of an object are told apart by their names.

## Main definitions

- `Json.IsPart` — a document somewhere in another one
- `Json.WellFormed`, `Json.IntegersFit` — what holds of the parts of a document
- `Json.depth` — how deep arrays and objects are nested

## Main statements

- `Json.induction` — what passes from the parts of a container to the container holds of every document
-/

namespace SqlFormula

namespace Json

/-- A document somewhere in another one, or the whole. -/
inductive IsPart (part : Json) : Json → Prop
  | self : IsPart part part
  | item {items : List Json} {j : Json} : j ∈ items → IsPart part j → IsPart part (.array items)
  | member {members : List (String × Json)} {m : String × Json} :
    m ∈ members → IsPart part m.2 → IsPart part (.object members)

/-- All floats are finite, and the members of every object ascend by name. -/
structure WellFormed (j : Json) : Prop where
  finite : ∀ x, IsPart (.float x) j → Number.isFinite x = true
  sorted : ∀ members, IsPart (.object members) j → Entries.Sorted members

/-- All integers fit into 64 bits with a sign. -/
def IntegersFit (j : Json) : Prop :=
  ∀ i, IsPart (.integer i) j → Number.Fits i

/-- A document without parts. -/
def IsScalar : Json → Prop
  | .null | .boolean _ | .integer _ | .float _ | .text _ => True
  | .array _ | .object _ => False

mutual

/-- How deep arrays and objects are nested: 0 for a document without parts. -/
def depth : Json → Nat
  | .array items => depthItems items + 1
  | .object members => depthMembers members + 1
  | _ => 0

/-- The depth of the deepest item. -/
def depthItems : List Json → Nat
  | [] => 0
  | j :: js => max j.depth (depthItems js)

/-- The depth of the deepest member. -/
def depthMembers : List (String × Json) → Nat
  | [] => 0
  | (_, j) :: rest => max j.depth (depthMembers rest)

end

/-- What passes from the parts of a container to the container holds of every document. -/
@[elab_as_elim]
theorem induction {P : Json → Prop} (scalar : ∀ j : Json, j.IsScalar → P j)
    (array : ∀ items : List Json, (∀ j ∈ items, P j) → P (.array items))
    (object : ∀ members : List (String × Json), (∀ m ∈ members, P m.2) → P (.object members)) (j : Json) : P j :=
  match j with
  | .null => scalar _ trivial
  | .boolean _ => scalar _ trivial
  | .integer _ => scalar _ trivial
  | .float _ => scalar _ trivial
  | .text _ => scalar _ trivial
  | .array items => array items fun j _hj => induction scalar array object j
  | .object members => object members fun m _hm => induction scalar array object m.2
termination_by sizeOf j
decreasing_by
  · have := List.sizeOf_lt_of_mem _hj
    simp only [Json.array.sizeOf_spec]
    omega
  · have hmem := List.sizeOf_lt_of_mem _hm
    have hsnd : sizeOf m.2 < sizeOf m := by
      obtain ⟨name, j⟩ := m
      simp only [Prod.mk.sizeOf_spec]
      omega
    simp only [Json.object.sizeOf_spec]
    omega

/-! ### Parts of containers -/

section

variable {part : Json} {items : List Json} {members : List (String × Json)} {j : Json} {m : String × Json}

@[simp]
theorem isPart_array : IsPart part (.array items) ↔ part = .array items ∨ ∃ j ∈ items, IsPart part j := by
  constructor
  · rintro (_ | ⟨hj, hpart⟩)
    · exact .inl rfl
    · exact .inr ⟨_, hj, hpart⟩
  · rintro (rfl | ⟨j, hj, hpart⟩)
    · exact .self
    · exact .item hj hpart

@[simp]
theorem isPart_object :
    IsPart part (.object members) ↔ part = .object members ∨ ∃ m ∈ members, IsPart part m.2 := by
  constructor
  · rintro (_ | _ | ⟨hm, hpart⟩)
    · exact .inl rfl
    · exact .inr ⟨_, hm, hpart⟩
  · rintro (rfl | ⟨m, hm, hpart⟩)
    · exact .self
    · exact .member hm hpart

theorem isPart_scalar (hj : j.IsScalar) : IsPart part j ↔ part = j := by
  constructor
  · rintro (_ | _ | _)
    · rfl
    · exact hj.elim
    · exact hj.elim
  · rintro rfl
    exact .self

@[simp]
theorem isPart_null : IsPart part .null ↔ part = .null :=
  isPart_scalar trivial

@[simp]
theorem isPart_boolean (b : Bool) : IsPart part (.boolean b) ↔ part = .boolean b :=
  isPart_scalar trivial

@[simp]
theorem isPart_integer (i : Int) : IsPart part (.integer i) ↔ part = .integer i :=
  isPart_scalar trivial

@[simp]
theorem isPart_float (x : Float) : IsPart part (.float x) ↔ part = .float x :=
  isPart_scalar trivial

@[simp]
theorem isPart_text (s : String) : IsPart part (.text s) ↔ part = .text s :=
  isPart_scalar trivial

theorem WellFormed.of_item (h : (array items).WellFormed) (hj : j ∈ items) : j.WellFormed :=
  ⟨fun x hx => h.finite x (.item hj hx), fun members hmembers => h.sorted members (.item hj hmembers)⟩

theorem WellFormed.of_member (h : (object members).WellFormed) (hm : m ∈ members) : m.2.WellFormed :=
  ⟨fun x hx => h.finite x (.member hm hx), fun members hmembers => h.sorted members (.member hm hmembers)⟩

theorem IntegersFit.of_item (h : (array items).IntegersFit) (hj : j ∈ items) : j.IntegersFit :=
  fun i hi => h i (.item hj hi)

theorem IntegersFit.of_member (h : (object members).IntegersFit) (hm : m ∈ members) : m.2.IntegersFit :=
  fun i hi => h i (.member hm hi)

end

end Json

end SqlFormula
