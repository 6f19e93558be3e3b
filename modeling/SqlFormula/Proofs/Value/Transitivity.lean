import Mathlib
import SqlFormula.Proofs.Text.ByteOrder
import SqlFormula.Proofs.Value.Comparison

/-!
# Where the order of values is transitive

Values of different kinds are brought to a common type two by two, so three values can be compared in three ways that do
not fit together. Two kinds conflict if that happens among values made of them. Among values of kinds without a conflict
each value has a place in one line, and they are compared by their places.

## Main definitions

- `Chained` — three orders that fit together
- `Kind`, `Value.MadeOf` — the kinds of the parts of a value; a NaN has no kind
- `Kind.Conflicts` — two kinds that are not ordered together
- `Value.place` — the place of a value without parts

## Main statements

- `Value.compareWith_eq_comparePlaces` — values without a conflict are compared by their places
- `Value.compareWith_trans_iff` — the order is transitive exactly where no kinds conflict
-/

namespace SqlFormula

/-! ### Orders that fit together -/

/-- What the orders of a first thing with a second, of the second with a third, and of the first with the third are to
each other where an order is transitive. -/
def Chained (o p q : Ordering) : Prop :=
  (o = .eq → q = p) ∧ (p = .eq → q = o) ∧ (o = p → q = o)

instance (o p q : Ordering) : Decidable (Chained o p q) :=
  inferInstanceAs (Decidable (_ ∧ _))

namespace Chained

theorem of_transCmp {α : Type} (cmp : α → α → Ordering) [Std.TransCmp cmp] (a b c : α) :
    Chained (cmp a b) (cmp b c) (cmp a c) := by
  refine ⟨fun h => Std.TransCmp.congr_left h, fun h => (Std.TransCmp.congr_right h).symm, fun h => ?_⟩
  cases hab : cmp a b with
  | lt => exact Std.TransCmp.lt_trans hab (h ▸ hab)
  | eq => exact (Std.TransCmp.congr_left hab).trans (h ▸ hab)
  | gt => exact Std.TransCmp.gt_trans hab (h ▸ hab)

/-- What is compared by one order, and where that leaves it open by another one. -/
theorem then' {o p q o' p' q' : Ordering} (h : Chained o p q) (h' : Chained o' p' q') :
    Chained (o.then o') (p.then p') (q.then q') := by
  revert h h'
  cases o <;> cases p <;> cases q <;> cases o' <;> cases p' <;> cases q' <;> decide

theorem lt_left (p : Ordering) : Chained .lt p .lt := by
  cases p <;> decide

theorem gt_right (o : Ordering) : Chained o .gt .gt := by
  cases o <;> decide

theorem gt_lt (q : Ordering) : Chained .gt .lt q := by
  cases q <;> decide

theorem ne_gt {o p q : Ordering} (h : Chained o p q) (ho : o ≠ .gt) (hp : p ≠ .gt) : q ≠ .gt := by
  revert h ho hp
  cases o <;> cases p <;> cases q <;> decide

end Chained

/-! ### Kinds -/

/-- The kinds of values without parts, NULL and NaN apart. -/
inductive Kind where
  | boolean
  | integer
  | float
  | text
  | blob
  | dateTime
  deriving DecidableEq

/-- Two kinds that are not ordered together under a collation, each pair on one side. -/
def Kind.Conflicts (c : Collation) : Kind → Kind → Prop
  | .text, .boolean | .text, .integer | .text, .float | .text, .dateTime => True
  | .integer, .float | .integer, .dateTime | .float, .dateTime => True
  | .text, .blob => c ≠ .binary
  | _, _ => False

namespace Value

def kind? : Value → Option Kind
  | .boolean _ => some .boolean
  | .integer _ => some .integer
  | .float x => if x.isNaN then none else some .float
  | .text _ => some .text
  | .blob _ => some .blob
  | .dateTime _ => some .dateTime
  | .null | .array _ | .object _ => none

/-- A value all of whose parts are NULL or of the given kinds. -/
inductive MadeOf (K : Kind → Prop) : Value → Prop
  | null : MadeOf K .null
  | scalar {v : Value} {k : Kind} : v.kind? = some k → K k → MadeOf K v
  | array {items : List Value} : (∀ v ∈ items, MadeOf K v) → MadeOf K (.array items)
  | object {entries : List (String × Value)} : (∀ e ∈ entries, MadeOf K e.2) → MadeOf K (.object entries)

section

variable {K : Kind → Prop}

theorem madeOf_array {items : List Value} : MadeOf K (.array items) ↔ ∀ v ∈ items, MadeOf K v := by
  constructor
  · rintro (_ | ⟨h, -⟩ | h)
    · cases h
    · exact h
  · exact .array

theorem madeOf_object {entries : List (String × Value)} : MadeOf K (.object entries) ↔ ∀ e ∈ entries, MadeOf K e.2 := by
  constructor
  · rintro (_ | ⟨h, -⟩ | _ | h)
    · cases h
    · exact h
  · exact .object

theorem madeOf_scalar {v : Value} {k : Kind} (h : v.MadeOf K) (hk : v.kind? = some k) : K k := by
  cases h with
  | null => cases hk
  | scalar hl hK =>
    rw [hk] at hl
    cases hl
    exact hK
  | array _ => cases hk
  | object _ => cases hk

end

/-! ### Places -/

/-- What a collation looks at in a text. -/
def collated (c : Collation) (s : String) : String :=
  match c with
  | .binary => s
  | .noCase => Text.asciiLower s
  | .rTrim => String.ofList (Text.dropEndWhile (· == ' ') s.toList)

theorem compareText_eq (c : Collation) (a b : String) :
    compareText c a b = compareBytes (Text.bytesOf (collated c a)) (Text.bytesOf (collated c b)) := by
  rw [← Text.compare_eq_compareBytes]
  cases c <;> rfl

/-- The place of a value without parts among those that do not conflict with it: its class, where texts and blobs are
one, then a number or an instant, then bytes. Where there are floats, booleans are among these. -/
def place (c : Collation) (floats : Bool) : Value → Nat × (Int × Int × Int) × List UInt8
  | .boolean b =>
    (1, if floats then (floatPlace? (Number.ofInt64 (if b then 1 else 0))).getD (0, 0, 0)
      else (if b then 1 else 0, 0, 0), [])
  | .integer i => (1, (i.toInt, 0, 0), [])
  | .float x => (1, (floatPlace? x).getD (0, 0, 0), [])
  | .text s => (2, (0, 0, 0), Text.bytesOf (collated c s))
  | .blob bytes => (2, (0, 0, 0), bytes)
  | .dateTime t => (3, (t.seconds, t.nanos, 0), [])
  | .null | .array _ | .object _ => (0, (0, 0, 0), [])

def comparePlaces (p q : Nat × (Int × Int × Int) × List UInt8) : Ordering :=
  (compare p.1 q.1).then ((compareTriples p.2.1 q.2.1).then (compareBytes p.2.2 q.2.2))

theorem chained_comparePlaces (p q r : Nat × (Int × Int × Int) × List UInt8) :
    Chained (comparePlaces p q) (comparePlaces q r) (comparePlaces p r) := by
  have htriples (i j k : Int × Int × Int) : Chained (compareTriples i j) (compareTriples j k) (compareTriples i k) :=
    (Chained.of_transCmp compare _ _ _).then'
      ((Chained.of_transCmp compare _ _ _).then' (Chained.of_transCmp compare _ _ _))
  exact (Chained.of_transCmp compare _ _ _).then'
    ((htriples _ _ _).then' (Chained.of_transCmp (List.compareLex compare) _ _ _))

theorem compareFloats_eq_comparePlaces {x y : Float} (hx : x.isNaN = false) (hy : y.isNaN = false) :
    compareFloats x y =
      comparePlaces (1, (floatPlace? x).getD (0, 0, 0), []) (1, (floatPlace? y).getD (0, 0, 0), []) := by
  obtain ⟨p, hp⟩ := exists_floatPlace? hx
  obtain ⟨q, hq⟩ := exists_floatPlace? hy
  rw [compareFloats_eq, hp, hq]
  exact Ordering.then_eq.symm

theorem compare_eq_comparePlaces (i j : Int64) :
    compare i j = comparePlaces (1, (i.toInt, 0, 0), []) (1, (j.toInt, 0, 0), []) := by
  rw [← compare_toInt]
  show _ = ((compare i.toInt j.toInt).then .eq).then .eq
  rw [Ordering.then_eq, Ordering.then_eq]

theorem instantCompare_eq_comparePlaces (t u : Instant) :
    t.compare u = comparePlaces (3, (t.seconds, t.nanos, 0), []) (3, (u.seconds, u.nanos, 0), []) := by
  show _ = ((compare t.seconds u.seconds).then ((compare (t.nanos : Int) u.nanos).then .eq)).then .eq
  rw [compare_natCast, Ordering.then_eq, Ordering.then_eq]
  rfl

section

variable {c : Collation} {K : Kind → Prop} {floats : Bool}

theorem madeOf_float {x : Float} (h : MadeOf K (.float x)) : K .float ∧ x.isNaN = false := by
  cases hx : x.isNaN with
  | true =>
    rcases h with _ | ⟨hkind, -⟩
    rw [kind?, if_pos hx] at hkind
    cases hkind
  | false => exact ⟨madeOf_scalar h (by rw [kind?, hx]; rfl), rfl⟩

/-- Integers conflict with floats, so beside them booleans are integers. -/
theorem floats_eq_false (hK : ∀ k l, K k → K l → ¬k.Conflicts c l) (hfloats : floats = true ↔ K .float)
    (hinteger : K .integer) : floats = false := by
  rw [← Bool.not_eq_true, hfloats]
  exact fun hfloat => hK _ _ hinteger hfloat trivial

/-- Values without a conflict are compared by their places. -/
theorem compareWith_eq_comparePlaces (hK : ∀ k l, K k → K l → ¬k.Conflicts c l) (hfloats : floats = true ↔ K .float)
    {v w : Value} (hv : v.MadeOf K) (hw : w.MadeOf K) (hv' : v.IsScalar) (hw' : w.IsScalar) :
    compareWith c v w = comparePlaces (v.place c floats) (w.place c floats) := by
  have hbit (b : Bool) : (Number.ofInt64 (if b then 1 else 0)).isNaN = false := by
    revert b
    decide
  have hbooleans : ∀ floats a b : Bool,
      compareBooleans a b =
        comparePlaces (place .binary floats (.boolean a)) (place .binary floats (.boolean b)) := by
    decide
  cases v <;> cases w <;> first
    | rfl
    | exact hv'.elim
    | exact hw'.elim
    | skip
  -- kinds that conflict
  case boolean.text | integer.text | text.boolean | text.integer | integer.dateTime | dateTime.integer | text.dateTime
      | dateTime.text =>
    first
      | exact (hK _ _ (madeOf_scalar hv rfl) (madeOf_scalar hw rfl) trivial).elim
      | exact (hK _ _ (madeOf_scalar hw rfl) (madeOf_scalar hv rfl) trivial).elim
  case integer.float | text.float => exact (hK _ _ (madeOf_scalar hv rfl) (madeOf_float hw).1 trivial).elim
  case float.integer | float.text => exact (hK _ _ (madeOf_scalar hw rfl) (madeOf_float hv).1 trivial).elim
  case float.dateTime => exact (hK _ _ (madeOf_float hv).1 (madeOf_scalar hw rfl) trivial).elim
  case dateTime.float => exact (hK _ _ (madeOf_float hw).1 (madeOf_scalar hv rfl) trivial).elim
  -- booleans are integers or floats, as the other numbers are
  case boolean.boolean a b => exact hbooleans floats a b
  case boolean.integer a j =>
    obtain rfl := floats_eq_false hK hfloats (madeOf_scalar hw rfl)
    cases a <;> exact compare_eq_comparePlaces _ j
  case integer.boolean i b =>
    obtain rfl := floats_eq_false hK hfloats (madeOf_scalar hv rfl)
    cases b <;> exact compare_eq_comparePlaces i _
  case boolean.float a y =>
    obtain rfl : floats = true := hfloats.2 (madeOf_float hw).1
    exact compareFloats_eq_comparePlaces (hbit a) (madeOf_float hw).2
  case float.boolean x b =>
    obtain rfl : floats = true := hfloats.2 (madeOf_float hv).1
    exact compareFloats_eq_comparePlaces (madeOf_float hv).2 (hbit b)
  case integer.integer i j => exact compare_eq_comparePlaces i j
  case float.float x y => exact compareFloats_eq_comparePlaces (madeOf_float hv).2 (madeOf_float hw).2
  -- texts under a collation, or with blobs as bytes
  case text.text a b => exact compareText_eq c a b
  case text.blob a bytes =>
    obtain rfl : c = .binary := not_not.1 (hK _ _ (madeOf_scalar hv rfl) (madeOf_scalar hw rfl))
    rfl
  case blob.text bytes b =>
    obtain rfl : c = .binary := not_not.1 (hK _ _ (madeOf_scalar hw rfl) (madeOf_scalar hv rfl))
    rfl
  case dateTime.dateTime t u => exact instantCompare_eq_comparePlaces t u

/-- Values with parts come after all others, and objects after arrays. -/
def block : Value → Nat
  | .array _ => 1
  | .object _ => 2
  | _ => 0

theorem compareWith_of_block_ne {v w : Value} (h : v.block ≠ w.block) :
    compareWith c v w = compare v.block w.block := by
  cases v <;> cases w <;> first
    | rfl
    | exact absurd rfl h

theorem isScalar_of_block {v : Value} (h : v.block = 0) : v.IsScalar := by
  cases v with
  | array items => cases h
  | object entries => cases h
  | _ => trivial

/-- Orders fit together if they do where all three values are in one block. -/
theorem chained_of_block {v w u : Value}
    (h : v.block = w.block → w.block = u.block →
      Chained (compareWith c v w) (compareWith c w u) (compareWith c v u)) :
    Chained (compareWith c v w) (compareWith c w u) (compareWith c v u) := by
  have hne {m n : Nat} (hmn : m ≠ n) : compare m n ≠ .eq := fun heq => hmn (Nat.compare_eq_eq.1 heq)
  by_cases hvw : v.block = w.block
  · by_cases hwu : w.block = u.block
    · exact h hvw hwu
    · rw [compareWith_of_block_ne hwu, compareWith_of_block_ne (hvw ▸ hwu : v.block ≠ u.block), hvw]
      exact ⟨fun _ => rfl, fun heq => absurd heq (hne hwu), fun heq => heq.symm⟩
  · by_cases hwu : w.block = u.block
    · rw [compareWith_of_block_ne hvw, compareWith_of_block_ne (hwu ▸ hvw : v.block ≠ u.block), hwu]
      exact ⟨fun heq => absurd heq (hne (hwu ▸ hvw)), fun _ => rfl, fun _ => rfl⟩
    · by_cases hvu : v.block = u.block
      · -- back in the block of the first: the two orders are opposite
        have hswap : compare w.block u.block = (compare v.block w.block).swap := by
          rw [hvu]
          exact Std.OrientedOrd.eq_swap
        rw [compareWith_of_block_ne hvw, compareWith_of_block_ne hwu, hswap]
        have hvw' := hne hvw
        revert hvw'
        cases compare v.block w.block <;> simp [Chained]
      · rw [compareWith_of_block_ne hvw, compareWith_of_block_ne hwu, compareWith_of_block_ne hvu]
        exact Chained.of_transCmp compare _ _ _

/-! ### Values with parts -/

theorem chained_entries {vs : List (String × Value)}
    (h : ∀ e ∈ vs, ∀ w u, MadeOf K w → MadeOf K u →
      Chained (compareWith c e.2 w) (compareWith c w u) (compareWith c e.2 u))
    {ws us : List (String × Value)} (hws : ∀ e ∈ ws, MadeOf K e.2) (hus : ∀ e ∈ us, MadeOf K e.2) :
    Chained (compareEntries c vs ws) (compareEntries c ws us) (compareEntries c vs us) := by
  induction vs generalizing ws us with
  | nil =>
    cases ws with
    | nil => cases us <;> exact ⟨fun _ => rfl, fun heq => heq, fun heq => heq.symm⟩
    | cons w ws =>
      cases us with
      | nil => exact (by decide : Chained .lt .gt .eq)
      | cons u us => exact Chained.lt_left _
  | cons v vs ih =>
    cases ws with
    | nil =>
      cases us with
      | nil => exact (by decide : Chained .gt .eq .gt)
      | cons u us => exact Chained.gt_lt _
    | cons w ws =>
      cases us with
      | nil => exact Chained.gt_right _
      | cons u us =>
        obtain ⟨k, v⟩ := v
        obtain ⟨l, w⟩ := w
        obtain ⟨m, u⟩ := u
        obtain ⟨hv, hvs⟩ := List.forall_mem_cons.1 h
        obtain ⟨hw, hws⟩ := List.forall_mem_cons.1 hws
        obtain ⟨hu, hus⟩ := List.forall_mem_cons.1 hus
        rw [compareEntries, compareEntries, compareEntries]
        exact ((Chained.of_transCmp compare k l m).then' (hv w u hw hu)).then' (ih hvs hws hus)

/-- Any three values made of kinds without a conflict are ordered as in one line. -/
theorem chained_compareWith (hK : ∀ k l, K k → K l → ¬k.Conflicts c l) {v w u : Value} (hv : v.MadeOf K)
    (hw : w.MadeOf K) (hu : u.MadeOf K) :
    Chained (compareWith c v w) (compareWith c w u) (compareWith c v u) := by
  classical
  induction v using Value.induction generalizing w u with
  | scalar v hscalar =>
    refine chained_of_block fun hvw hwu => ?_
    -- all three are scalars, and have places in one order
    have hv0 : v.block = 0 := by
      cases v with
      | array items => exact hscalar.elim
      | object entries => exact hscalar.elim
      | _ => rfl
    have hw' := isScalar_of_block (hvw ▸ hv0 : w.block = 0)
    have hu' := isScalar_of_block (hwu ▸ hvw ▸ hv0 : u.block = 0)
    have hfloats : decide (K .float) = true ↔ K .float := decide_eq_true_iff
    rw [compareWith_eq_comparePlaces hK hfloats hv hw hscalar hw',
      compareWith_eq_comparePlaces hK hfloats hw hu hw' hu',
      compareWith_eq_comparePlaces hK hfloats hv hu hscalar hu']
    exact chained_comparePlaces _ _ _
  | array items ih =>
    refine chained_of_block fun hvw hwu => ?_
    cases w with
    | array ws =>
      cases u with
      | array us =>
        show Chained (compareItems c items ws) (compareItems c ws us) (compareItems c items us)
        rw [compareItems_eq, compareItems_eq, compareItems_eq]
        refine chained_entries (List.forall_mem_map.2 fun v hmem w u hw hu => ?_)
          (List.forall_mem_map.2 (madeOf_array.1 hw)) (List.forall_mem_map.2 (madeOf_array.1 hu))
        exact ih v hmem (madeOf_array.1 hv v hmem) hw hu
      | _ => cases hwu
    | _ => cases hvw
  | object entries ih =>
    refine chained_of_block fun hvw hwu => ?_
    cases w with
    | object ws =>
      cases u with
      | object us =>
        exact chained_entries (fun e hmem w u hw hu => ih e hmem (madeOf_object.1 hv e hmem) hw hu)
          (madeOf_object.1 hw) (madeOf_object.1 hu)
      | _ => cases hwu
    | _ => cases hvw

end

/-! ### Conflicts -/

/-- The first instant of a year; `afterNewYear` is half a second later. -/
def newYear : Instant :=
  ⟨946684800, 0, by decide⟩

def afterNewYear : Instant :=
  ⟨946684800, 500000000, by decide⟩

/-- Three values that go in a cycle: the first is not after the second, nor the second after the third, but the first
is after the third. -/
def Cycle (c : Collation) (v w u : Value) : Prop :=
  compareWith c v w ≠ .gt ∧ compareWith c w u ≠ .gt ∧ compareWith c v u = .gt

instance (c : Collation) (v w u : Value) : Decidable (Cycle c v w u) :=
  inferInstanceAs (Decidable (_ ∧ _))

theorem cycle_text_boolean (c : Collation) : Cycle c (.text "maybe") (.text "true") (.boolean true) := by
  cases c <;> decide

theorem cycle_text_integer (c : Collation) : Cycle c (.text "10") (.text "9") (.integer 9) := by
  cases c <;> decide

theorem cycle_text_float (c : Collation) : Cycle c (.text "10") (.text "9") (.float 9) := by
  cases c <;> decide

theorem cycle_text_dateTime (c : Collation) :
    Cycle c (.text "2000-01-01T00:00:00Z") (.dateTime newYear) (.text "2000-01-01 00:00:00") := by
  cases c <;> decide

theorem cycle_integer_float (c : Collation) :
    Cycle c (.integer 9007199254740993) (.float 9007199254740992) (.integer 9007199254740992) := by
  cases c <;> decide

theorem cycle_integer_dateTime (c : Collation) :
    Cycle c (.dateTime afterNewYear) (.integer 946684800) (.dateTime newYear) := by
  cases c <;> decide

theorem cycle_float_dateTime (c : Collation) :
    Cycle c (.dateTime afterNewYear) (.float 946684800) (.dateTime newYear) := by
  cases c <;> decide

theorem cycle_text_blob_noCase : Cycle .noCase (.text "a") (.text "A") (.blob [0x42]) := by decide

theorem cycle_text_blob_rTrim : Cycle .rTrim (.text "a ") (.text "a") (.blob [0x61]) := by decide

/-- Kinds that conflict have values that go in a cycle. -/
theorem exists_cycle {c : Collation} {K : Kind → Prop} {k l : Kind} (hk : K k) (hl : K l) (h : k.Conflicts c l) :
    ∃ v w u : Value, v.MadeOf K ∧ w.MadeOf K ∧ u.MadeOf K ∧ Cycle c v w u := by
  have hfloat {x : Float} (hx : x.isNaN = false) (hK : K .float) : MadeOf K (.float x) :=
    .scalar (by rw [kind?, hx]; rfl) hK
  cases k <;> cases l <;> first
    | exact h.elim
    | skip
  case text.boolean => exact ⟨_, _, _, .scalar rfl hk, .scalar rfl hk, .scalar rfl hl, cycle_text_boolean c⟩
  case text.integer => exact ⟨_, _, _, .scalar rfl hk, .scalar rfl hk, .scalar rfl hl, cycle_text_integer c⟩
  case text.float =>
    exact ⟨_, _, _, .scalar rfl hk, .scalar rfl hk, hfloat (by decide) hl, cycle_text_float c⟩
  case text.dateTime => exact ⟨_, _, _, .scalar rfl hk, .scalar rfl hl, .scalar rfl hk, cycle_text_dateTime c⟩
  case integer.float =>
    exact ⟨_, _, _, .scalar rfl hk, hfloat (by decide) hl, .scalar rfl hk, cycle_integer_float c⟩
  case integer.dateTime => exact ⟨_, _, _, .scalar rfl hl, .scalar rfl hk, .scalar rfl hl, cycle_integer_dateTime c⟩
  case float.dateTime =>
    exact ⟨_, _, _, .scalar rfl hl, hfloat (by decide) hk, .scalar rfl hl, cycle_float_dateTime c⟩
  case text.blob =>
    cases c with
    | binary => exact absurd rfl h
    | noCase => exact ⟨_, _, _, .scalar rfl hk, .scalar rfl hk, .scalar rfl hl, cycle_text_blob_noCase⟩
    | rTrim => exact ⟨_, _, _, .scalar rfl hk, .scalar rfl hk, .scalar rfl hl, cycle_text_blob_rTrim⟩

/-- **Where the order of values is transitive**: among the values made of some kinds, exactly if no two of these kinds
conflict. -/
theorem compareWith_trans_iff (c : Collation) (K : Kind → Prop) :
    (∀ v w u : Value, v.MadeOf K → w.MadeOf K → u.MadeOf K →
      compareWith c v w ≠ .gt → compareWith c w u ≠ .gt → compareWith c v u ≠ .gt) ↔
    ∀ k l, K k → K l → ¬k.Conflicts c l := by
  constructor
  · intro htrans k l hk hl hconflict
    obtain ⟨v, w, u, hv, hw, hu, hvw, hwu, hvu⟩ := exists_cycle hk hl hconflict
    exact htrans v w u hv hw hu hvw hwu hvu
  · intro hK v w u hv hw hu hvw hwu
    exact (chained_compareWith hK hv hw hu).ne_gt hvw hwu

/-- Among all values without a NaN the order is not transitive: as texts `10` comes before `9`, which is 9 as a number,
but 10 is more than 9. -/
theorem compareWith_not_transitive :
    ¬∀ (c : Collation) (v w u : Value), v.MadeOf (fun _ => True) → w.MadeOf (fun _ => True) →
      u.MadeOf (fun _ => True) → compareWith c v w ≠ .gt → compareWith c w u ≠ .gt → compareWith c v u ≠ .gt := by
  intro htrans
  exact htrans .binary (.text "10") (.text "9") (.integer 9) (.scalar rfl trivial) (.scalar rfl trivial)
    (.scalar rfl trivial) (by decide +kernel) (by decide +kernel) (by decide +kernel)

end Value

end SqlFormula
