import SqlFormula.Proofs.Typed.Normal
import SqlFormula.Typed.Catalogue

/-!
# The normal form of a value

What a type takes from a value can be stored again. What is stored need not be the value: it is the normal form in
which the type would have written it. The type takes the same data from the normal form.

## Main definitions

- `Shape.Regular` — shapes whose parts can be told apart
- `Catalogue.exercised` — the shapes in use

## Main statements

- `Shape.normal_decode` — the decoder of a regular shape is normal
- `Shape.decode_normalForm` — every shape in use takes the same data from the normal form
-/

namespace SqlFormula.Typed

namespace Shape

/-! ### Regular shapes -/

/-- Whether what is taken from anything but NULL is stored as anything but NULL. -/
def keepsPresence : Shape → Bool
  | .any | .optional _ => false
  | .wrapped s => s.keepsPresence
  | _ => true

/-- Whether texts that are taken as keys stay what they are. -/
def isKey : Shape → Bool
  | .text | .char | .boolean | .integer _ | .single | .double => true
  | _ => false

/-- Whether the first variant of a sum, which is its default, has no data. -/
def startsWithUnit : List (String × VariantShape) → Bool
  | (_, .unit) :: _ => true
  | _ => false

mutual

/-- Options tell nothing from something, the fields of structures have different names, and the first variant of a sum
has no data. -/
def Regular : Shape → Prop
  | .optional s => s.keepsPresence = true ∧ s.Regular
  | .wrapped s => s.Regular
  | .sequence s => s.Regular
  | .tuple _ items => RegularItems items
  | .map key value => key.isKey = true ∧ value.Regular
  | .struct _ _ _ fields => (fields.map Prod.fst).Nodup ∧ RegularFields fields
  | .sum _ variants => startsWithUnit variants = true ∧ RegularVariants variants
  | _ => True

/-- All items are regular. -/
def RegularItems : List Shape → Prop
  | [] => True
  | s :: ss => s.Regular ∧ RegularItems ss

/-- All fields are regular. -/
def RegularFields : List (String × Shape) → Prop
  | [] => True
  | (_, s) :: rest => s.Regular ∧ RegularFields rest

/-- The data of a variant is regular. -/
def RegularVariant : VariantShape → Prop
  | .unit => True
  | .wrapped s => s.Regular
  | .tuple items => RegularItems items
  | .struct fields => (fields.map Prod.fst).Nodup ∧ RegularFields fields

/-- The data of all variants is regular. -/
def RegularVariants : List (String × VariantShape) → Prop
  | [] => True
  | (_, s) :: rest => RegularVariant s ∧ RegularVariants rest

end

theorem names_fieldDecoders (defaults : Bool) (fields : List (String × Shape)) :
    (fieldDecoders defaults fields).map Decoder.Field.name = fields.map Prod.fst := by
  induction fields with
  | nil => rfl
  | cons f rest ih => rw [fieldDecoders, List.map_cons, List.map_cons, ih]

/-! ### Defaults -/

theorem holds_zero (k : IntegerKind) : k.holds (0 : Int64).toInt = true := by
  have hpos (n : Nat) : (0 : Int) < Nat.pow 2 n := by
    rw [Nat.pow_eq]
    positivity
  have hzero : (0 : Int64).toInt = 0 := rfl
  rw [hzero, IntegerKind.holds]
  split
  · simp only [Bool.and_eq_true, decide_eq_true_eq]
    exact ⟨(neg_neg_of_pos (hpos _)).le, hpos _⟩
  · simp only [Bool.and_eq_true, decide_eq_true_eq]
    exact ⟨le_rfl, hpos _⟩

theorem toSingle_zero : Number.toSingle 0.0 = 0.0 := by
  decide +kernel

mutual

/-- The default of a shape comes back. -/
theorem restores_default (s : Shape) (h : s.Regular) : Decoder.Restores s.decode s.default := by
  cases s with
  | unit => exact Decoder.restores_of_eq rfl rfl
  | boolean => exact Decoder.restores_of_eq rfl rfl
  | integer k =>
    exact Decoder.restores_integer (holds_zero k)
  | single => exact Decoder.restores_of_eq rfl (congrArg (fun x => Except.ok (Datum.float x)) toSingle_zero)
  | double => exact Decoder.restores_of_eq rfl rfl
  | char => exact Decoder.restores_of_eq rfl rfl
  | text => exact Decoder.restores_of_eq rfl rfl
  | bytes => exact Decoder.restores_of_eq rfl rfl
  | dateTime => exact Decoder.restores_dateTime .epoch
  | timestamp => exact Decoder.restores_timestamp .epoch
  | any => exact Decoder.restores_of_eq rfl rfl
  | optional s => exact Decoder.restores_nothing
  | wrapped s => exact Decoder.restores_wrapped (restores_default s h)
  | sequence s => exact Decoder.restores_sequence (List.forall_mem_nil _)
  | tuple k items => exact Decoder.restores_tuple (restores_defaultItems items h)
  | map key value =>
    have hsorted : Entries.Sorted ([] : List (String × Datum)) := List.Pairwise.nil
    exact Decoder.restores_map hsorted (List.forall_mem_nil _) (List.forall_mem_nil _)
  | unitStruct name => exact Decoder.restores_of_eq rfl rfl
  | struct name defaults closed fields =>
    refine Decoder.restores_struct ?_ (restores_defaultFields defaults fields h.2)
    rw [names_fieldDecoders]
    exact h.1
  | sum name variants =>
    match variants, h with
    -- the default is the first variant, which a regular shape has without data
    | (first, .unit) :: rest, _ =>
      refine Decoder.restores_unitVariant ?_
      rw [variantDecoders, List.lookup_cons, List.map_cons, List.headD_cons, beq_self_eq_true]
      rfl
    | [], h => exact absurd h.1 (Bool.false_ne_true)
    | (_, .wrapped _) :: _, h => exact absurd h.1 (Bool.false_ne_true)
    | (_, .tuple _) :: _, h => exact absurd h.1 (Bool.false_ne_true)
    | (_, .struct _) :: _, h => exact absurd h.1 (Bool.false_ne_true)

/-- The defaults of items come back. -/
theorem restores_defaultItems (items : List Shape) (h : RegularItems items) :
    List.Forall₂ Decoder.Restores (itemDecoders items) (defaultItems items) := by
  cases items with
  | nil => exact .nil
  | cons s ss => exact .cons (restores_default s h.1) (restores_defaultItems ss h.2)

/-- The defaults of fields come back. -/
theorem restores_defaultFields (defaults : Bool) (fields : List (String × Shape)) (h : RegularFields fields) :
    List.Forall₂ (fun f e => f.name = e.1 ∧ Decoder.Restores f.decode e.2) (fieldDecoders defaults fields)
      (defaultFields fields) := by
  cases fields with
  | nil => exact .nil
  | cons f rest => exact .cons ⟨rfl, restores_default f.2 h.1⟩ (restores_defaultFields defaults rest h.2)

end

/-- What stands for a missing field comes back. -/
theorem restores_of_absent {name : String} {defaults : Bool} {s : Shape} {d : Datum} (h : s.Regular)
    (hd : absent name defaults s = .ok d) : Decoder.Restores s.decode d := by
  rw [absent] at hd
  split at hd
  · obtain rfl := Except.ok.inj hd
    exact restores_default s h
  · split at hd
    · obtain rfl := Except.ok.inj hd
      cases s with
      | optional s => exact Decoder.restores_nothing
      | _ => next hoptional => cases hoptional
    · cases hd

/-! ### What is stored as NULL -/

/-- Data that is stored as NULL is the default. -/
theorem eq_default_of_decode_null (s : Shape) {d : Datum} (hd : s.decode .null = .ok d)
    (hnull : d.translation = some .null) : d = s.default := by
  cases s with
  | unit => exact (Except.ok.inj hd).symm
  | any => exact (Except.ok.inj hd).symm
  | optional s => exact (Except.ok.inj hd).symm
  | unitStruct name => exact (Except.ok.inj hd).symm
  | wrapped s =>
    obtain ⟨d, hd', rfl⟩ := map_eq_ok.1 hd
    exact congrArg Datum.wrapped (eq_default_of_decode_null s hd' hnull)
  | struct name defaults closed fields =>
    obtain ⟨ds, -, ⟨⟩⟩ := bind_eq_ok.1 hd
    obtain ⟨stored, -, hstored⟩ := Datum.translation_struct.1 hnull
    cases hstored
  | _ => cases hd

/-- What keeps its presence is not stored as NULL. -/
theorem not_stored_as_null (s : Shape) (h : s.keepsPresence = true) {v : Value} {d : Datum} (hv : v.isNull = false)
    (hd : s.decode v = .ok d) (hnull : s.decode .null = .ok d) : d.translation ≠ some .null := by
  cases s with
  | unit =>
    cases v with
    | null => cases hv
    | _ => cases hd
  | unitStruct name =>
    cases v with
    | null => cases hv
    | _ => cases hd
  | wrapped s =>
    obtain ⟨part, hd', rfl⟩ := map_eq_ok.1 hd
    obtain ⟨_, hnull', ⟨⟩⟩ := map_eq_ok.1 hnull
    have hpart := not_stored_as_null s h hv hd' hnull'
    exact hpart
  | struct name defaults closed fields =>
    obtain ⟨ds, -, ⟨⟩⟩ := bind_eq_ok.1 hnull
    intro hstored
    obtain ⟨stored, -, hobject⟩ := Datum.translation_struct.1 hstored
    cases hobject
  | any => cases h
  | optional s => cases h
  | _ => cases hnull

/-! ### Decoders of shapes -/

theorem keepsKeys_decode {s : Shape} (h : s.isKey = true) : Decoder.KeepsKeys s.decode := by
  intro t k hk
  cases s with
  | text => exact Decoder.keepsKeys_text t k hk
  | char =>
    replace hk : (if t.length = 1 then Except.ok (Datum.text t) else _) = Except.ok k := hk
    split at hk
    · exact (Except.ok.inj hk).symm
    · cases hk
  | boolean => cases hk
  | integer k => cases hk
  | single => cases hk
  | double => cases hk
  | _ => cases h

mutual

/-- The decoder of a regular shape is normal. -/
theorem normal_decode (s : Shape) (h : s.Regular) : Decoder.Normal s.decode := by
  cases s with
  | unit => exact Decoder.normal_null _
  | boolean => exact Decoder.normal_boolean
  | integer k => exact Decoder.normal_integer k
  | single => exact Decoder.normal_single
  | double => exact Decoder.normal_double
  | char => exact Decoder.normal_char
  | text => exact Decoder.normal_text
  | bytes => exact Decoder.normal_bytes
  | dateTime => exact Decoder.normal_dateTime
  | timestamp => exact Decoder.normal_timestamp
  | any => exact Decoder.normal_any
  | optional s =>
    have hnormal := normal_decode s h.2
    refine Decoder.normal_optional hnormal fun v d hv hpresent hd hnull => ?_
    exact not_stored_as_null s h.1 hpresent hd (hnormal v d hv hd .null hnull) hnull
  | wrapped s => exact Decoder.normal_wrapped (normal_decode s h)
  | sequence s => exact Decoder.normal_sequence (normal_decode s h)
  | tuple k items => exact Decoder.normal_tuple (normal_itemDecoders items h)
  | map key value => exact Decoder.normal_map (keepsKeys_decode h.1) (normal_decode value h.2)
  | unitStruct name => exact Decoder.normal_null _
  | struct name defaults closed fields =>
    refine Decoder.normal_struct ?_ (normal_fieldDecoders defaults fields h.2)
    rw [names_fieldDecoders]
    exact h.1
  | sum name variants => exact Decoder.normal_sum (normal_variantDecoders name variants h.2)

theorem normal_itemDecoders (items : List Shape) (h : RegularItems items) :
    ∀ decode ∈ itemDecoders items, Decoder.Normal decode := by
  cases items with
  | nil => exact List.forall_mem_nil _
  | cons s ss => exact List.forall_mem_cons.2 ⟨normal_decode s h.1, normal_itemDecoders ss h.2⟩

theorem normal_fieldDecoders (defaults : Bool) (fields : List (String × Shape)) (h : RegularFields fields) :
    ∀ f ∈ fieldDecoders defaults fields, f.Normal := by
  cases fields with
  | nil => exact List.forall_mem_nil _
  | cons f rest =>
    obtain ⟨name, s⟩ := f
    refine List.forall_mem_cons.2 ⟨⟨normal_decode s h.1, fun d hd => ?_⟩, normal_fieldDecoders defaults rest h.2⟩
    exact restores_of_absent h.1 hd

theorem normal_variantDecoder (sumName name : String) (s : VariantShape) (h : RegularVariant s) :
    Decoder.NormalVariant name (variantDecoder sumName name s) := by
  cases s with
  | unit => exact Decoder.normalVariant_unit name
  | wrapped s => exact Decoder.normalVariant_wrapped (normal_decode s h)
  | tuple items => exact Decoder.normalVariant_tuple (normal_itemDecoders items h)
  | struct fields =>
    refine Decoder.normalVariant_struct ?_ (normal_fieldDecoders false fields h.2)
    rw [names_fieldDecoders]
    exact h.1

theorem normal_variantDecoders (sumName : String) (variants : List (String × VariantShape))
    (h : RegularVariants variants) (name : String) (decode : Decoder.VariantDecoder)
    (hlookup : (variantDecoders sumName variants).lookup name = some decode) : Decoder.NormalVariant name decode := by
  cases variants with
  | nil => cases hlookup
  | cons f rest =>
    obtain ⟨first, s⟩ := f
    rw [variantDecoders, List.lookup_cons] at hlookup
    split at hlookup
    · next heq =>
      obtain rfl := Option.some.inj hlookup
      rw [beq_iff_eq.1 heq]
      exact normal_variantDecoder sumName first s h.1
    · exact normal_variantDecoders sumName rest h.2 name decode hlookup

end

/-- A regular shape takes from NULL its default, and from anything else what comes back. -/
theorem decodeOrDefault_of_translation {s : Shape} (h : s.Regular) {v w : Value} {d : Datum} (hv : v.WellFormed)
    (hd : s.decodeOrDefault v = .ok d) (hw : d.translation = some w) : s.decodeOrDefault w = .ok d := by
  have hrestores : Decoder.Restores s.decode d := by
    rw [decodeOrDefault] at hd
    split at hd
    · obtain rfl := Except.ok.inj hd
      exact restores_default s h
    · exact normal_decode s h v d hv hd
  have hdecode := hrestores w hw
  cases w with
  | null => exact congrArg Except.ok (eq_default_of_decode_null s hdecode hw).symm
  | _ => exact hdecode

end Shape

/-! ### The shapes in use -/

namespace Catalogue

/-- The shapes in use: scalars and collections of them, and the types of an application. Types that refer to themselves
are unfolded so many times. -/
def exercised (n : Nat) : List Shape :=
  [.unit, .boolean, .single, .double, .char, .text, .bytes, .any, .optional int64, .sequence int64,
    .sequence (.integer ⟨false, 8⟩), pair, .tuple (.array 3) (List.replicate 3 int64), .map .text int64,
    .map int64 .text, .sequence (.map .text (.sequence (.integer ⟨false, 8⟩))), address, status, person, small, strict n,
    closed, marker, meters, point, stamp, value n] ++
  [8, 16, 32, 64, 128].flatMap fun bits => [.integer ⟨true, bits⟩, .integer ⟨false, bits⟩]

theorem regular_status : status.Regular := by
  simp [status, int32, Shape.Regular, Shape.RegularVariants, Shape.RegularVariant, Shape.RegularFields,
    Shape.RegularItems, Shape.startsWithUnit]

theorem regular_address : address.Regular := by
  simp [address, Shape.Regular, Shape.RegularFields, Shape.keepsPresence]

theorem regular_person : person.Regular := by
  simp [person, int32, int64, pair, Shape.Regular, Shape.RegularFields, Shape.RegularItems, Shape.isKey,
    Shape.keepsPresence, regular_status, regular_address]

theorem keepsPresence_strict (n : Nat) : (strict n).keepsPresence = true := by
  cases n with
  | zero => rfl
  | succ n => rfl

theorem regular_strict (n : Nat) : (strict n).Regular := by
  induction n with
  | zero => trivial
  | succ n ih =>
    simp [strict, int64, Shape.Regular, Shape.RegularFields, Shape.keepsPresence, keepsPresence_strict, ih]

theorem regular_value (n : Nat) : (value n).Regular := by
  induction n with
  | zero => trivial
  | succ n ih =>
    simp [value, int64, Shape.Regular, Shape.RegularVariants, Shape.RegularVariant, Shape.startsWithUnit, Shape.isKey, ih]

theorem regular_of_mem_exercised {n : Nat} {s : Shape} (h : s ∈ exercised n) : s.Regular := by
  revert s
  simp [exercised, int32, int64, pair, small, closed, marker, meters, point, stamp, Shape.Regular, Shape.RegularFields,
    Shape.RegularItems, Shape.isKey, Shape.keepsPresence, regular_status, regular_address, regular_person,
    regular_strict, regular_value, List.replicate]

end Catalogue

namespace Shape

/-- **A value has a normal form of which a type takes the same data.** Whatever a type takes from a value, and whatever
that data is stored as, the type takes the same data from what is stored. This holds of all regular shapes, and the
shapes in use are regular. -/
theorem decode_normalForm :
    (∀ n, ∀ s ∈ Catalogue.exercised n, s.Regular) ∧
      ∀ (s : Shape) (v w : Value) (d : Datum), s.Regular → v.WellFormed → s.decodeOrDefault v = .ok d →
        d.toValue = .ok w → s.decodeOrDefault w = .ok d :=
  ⟨fun _ _ h => Catalogue.regular_of_mem_exercised h, fun _ _ _ _ h hv hd hw =>
    decodeOrDefault_of_translation h hv hd (Datum.toValue_eq_ok.1 hw)⟩

/-- A point is taken from three bytes, and again from the array of three integers that it is stored as. -/
theorem point_normalForm :
    Catalogue.point.Regular ∧ (Value.blob [1, 2, 3]).WellFormed ∧
      Catalogue.point.decodeOrDefault (.blob [1, 2, 3]) = .ok (.sequence [.integer 1, .integer 2, .integer 3]) ∧
      (Datum.sequence [.integer 1, .integer 2, .integer 3]).toValue = .ok (.array [.integer 1, .integer 2, .integer 3]) ∧
      Catalogue.point.decodeOrDefault (.array [.integer 1, .integer 2, .integer 3]) =
        .ok (.sequence [.integer 1, .integer 2, .integer 3]) := by
  have hregular : Catalogue.point.Regular := decode_normalForm.1 0 _ (by simp [Catalogue.exercised])
  have hstored : (Datum.sequence [.integer 1, .integer 2, .integer 3]).toValue =
      .ok (.array [.integer 1, .integer 2, .integer 3]) := Datum.toValue_eq_ok.2 rfl
  exact ⟨hregular, trivial, rfl, hstored, decode_normalForm.2 _ (.blob [1, 2, 3]) _ _ hregular trivial rfl hstored⟩

end Shape

end SqlFormula.Typed
