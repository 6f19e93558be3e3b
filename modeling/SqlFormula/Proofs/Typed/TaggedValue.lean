import SqlFormula.Proofs.Number.Numeral
import SqlFormula.Proofs.Typed.Restoring
import SqlFormula.Proofs.Value
import SqlFormula.Typed.Catalogue

/-!
# Values as typed data

A value is itself typed data: a sum with one variant for each kind of values. Stored like that, a value becomes
another one, in which every part stands behind the name of its kind. It is taken for the same value again, whatever
its parts look like.

## Main definitions

- `Value.datum` — a value as typed data
- `Value.tagged` — a value with the names of kinds in it

## Main statements

- `Value.decode_tagged` — what is stored for a value is taken for this value and for no other
-/

namespace SqlFormula

open Typed

namespace Value

/-- A value behind the name of its kind. -/
def tag (name : String) (v : Value) : Value :=
  .object [(name, v)]

mutual

/-- A value as typed data: the variant of its kind. -/
def datum : Value → Datum
  | .null => .unitVariant "Null"
  | .boolean b => .wrappedVariant "Boolean" (.boolean b)
  | .integer i => .wrappedVariant "Integer" (.integer i)
  | .float x => .wrappedVariant "Float" (.float x)
  | .text s => .wrappedVariant "Text" (.text s)
  | .blob bs => .wrappedVariant "Blob" (.sequence (bs.map fun b => .integer (Int64.ofInt b.toNat)))
  | .dateTime t => .wrappedVariant "DateTime" (timestampDatum t)
  | .array items => .wrappedVariant "Array" (.sequence (itemData items))
  | .object entries => .wrappedVariant "Object" (.map (Decoder.textEntries (entryData entries)))

/-- Items as typed data. -/
def itemData : List Value → List Datum
  | [] => []
  | v :: vs => v.datum :: itemData vs

/-- The values of entries as typed data. -/
def entryData : List (String × Value) → List (String × Datum)
  | [] => []
  | (key, v) :: rest => (key, v.datum) :: entryData rest

end

mutual

/-- A value in which every part stands behind the name of its kind. NULL becomes a text. -/
def tagged : Value → Value
  | .null => .text "Null"
  | .boolean b => tag "Boolean" (.boolean b)
  | .integer i => tag "Integer" (.integer i)
  | .float x => tag "Float" (.float x)
  | .text s => tag "Text" (.text s)
  | .blob bs => tag "Blob" (.array (Decoder.ofBytes bs))
  | .dateTime t => tag "DateTime" (.text (t.rfc3339 "Z"))
  | .array items => tag "Array" (.array (taggedItems items))
  | .object entries => tag "Object" (.object (taggedEntries entries))

/-- The items with the names of their kinds. -/
def taggedItems : List Value → List Value
  | [] => []
  | v :: vs => v.tagged :: taggedItems vs

/-- The entries with the names of the kinds of their values. -/
def taggedEntries : List (String × Value) → List (String × Value)
  | [] => []
  | (key, v) :: rest => (key, v.tagged) :: taggedEntries rest

end

theorem itemData_eq_map (items : List Value) : itemData items = items.map datum := by
  induction items with
  | nil => rfl
  | cons v vs ih => rw [itemData, ih, List.map_cons]

theorem entryData_eq_map (entries : List (String × Value)) :
    entryData entries = entries.map fun e => (e.1, e.2.datum) := by
  induction entries with
  | nil => rfl
  | cons e rest ih => rw [entryData, ih, List.map_cons]

theorem taggedItems_eq_map (items : List Value) : taggedItems items = items.map tagged := by
  induction items with
  | nil => rfl
  | cons v vs ih => rw [taggedItems, ih, List.map_cons]

theorem taggedEntries_eq_map (entries : List (String × Value)) :
    taggedEntries entries = entries.map fun e => (e.1, e.2.tagged) := by
  induction entries with
  | nil => rfl
  | cons e rest ih => rw [taggedEntries, ih, List.map_cons]

/-! ### Storing -/

theorem translation_bytes (bs : List UInt8) :
    (Datum.sequence (bs.map fun b => .integer (Int64.ofInt b.toNat))).translation =
      some (.array (Decoder.ofBytes bs)) := by
  refine Datum.translation_sequence.2 ⟨_, ?_, rfl⟩
  rw [Decoder.ofBytes, List.forall₂_map_left_iff, List.forall₂_map_right_iff]
  exact List.forall₂_same.2 fun b _ => rfl

theorem translation_datum {v : Value} (hv : v.WellFormed) : v.datum.translation = some v.tagged := by
  induction v using Value.induction with
  | scalar v hscalar =>
    cases v with
    | blob bs => rw [datum, Datum.translation, translation_bytes, tagged]; rfl
    | array items => exact hscalar.elim
    | object entries => exact hscalar.elim
    | _ => rfl
  | array items ih =>
    rw [wellFormed_array] at hv
    have hitems : (Datum.sequence (itemData items)).translation = some (.array (taggedItems items)) := by
      refine Datum.translation_sequence.2 ⟨_, ?_, rfl⟩
      rw [itemData_eq_map, taggedItems_eq_map, List.forall₂_map_left_iff, List.forall₂_map_right_iff]
      exact List.forall₂_same.2 fun v hmem => ih v hmem (hv v hmem)
    rw [datum, Datum.translation, hitems, tagged]
    rfl
  | object entries ih =>
    rw [wellFormed_object] at hv
    have hentries : (Datum.map (Decoder.textEntries (entryData entries))).translation =
        some (.object (taggedEntries entries)) := by
      refine Decoder.translation_textEntries.2 ⟨taggedEntries entries, ?_, ?_⟩
      · rw [entryData_eq_map, taggedEntries_eq_map, List.forall₂_map_left_iff, List.forall₂_map_right_iff]
        exact List.forall₂_same.2 fun e hmem => ⟨rfl, ih e hmem (hv.2 e hmem)⟩
      · rw [Entries.ofList_of_sorted]
        rw [taggedEntries_eq_map, Entries.Sorted, List.map_map]
        exact hv.1
    rw [datum, Datum.translation, hentries, tagged]
    rfl

/-! ### Taking -/

theorem toInt_byte (b : UInt8) : (Int64.ofInt b.toNat).toInt = b.toNat := by
  have hlt := b.toNat_lt
  apply Int64.toInt_ofInt_of_le
  · omega
  · omega

theorem holds_byte (b : UInt8) : IntegerKind.holds ⟨false, 8⟩ (Int64.ofInt b.toNat).toInt = true := by
  have hlt := b.toNat_lt
  have hbelow : (b.toNat : Int) < Nat.pow 2 8 := by
    show (b.toNat : Int) < 256
    omega
  simp only [toInt_byte, IntegerKind.holds, Bool.false_eq_true, if_false, Bool.and_eq_true, decide_eq_true_eq]
  exact ⟨Int.natCast_nonneg _, hbelow⟩

theorem holds_int64 (i : Int64) : IntegerKind.holds ⟨true, 64⟩ i.toInt = true := by
  obtain ⟨hlow, hhigh⟩ := Number.fits_toInt i
  have hbelow : i.toInt < Nat.pow 2 63 := by
    show i.toInt < 9223372036854775808
    omega
  simp only [IntegerKind.holds, if_true, Bool.and_eq_true, decide_eq_true_eq]
  exact ⟨hlow, hbelow⟩

/-- A part of a value needs one unfolding less than the whole. -/
theorem restores_datum {v : Value} (hv : v.WellFormed) {n : Nat} (hn : v.depth ≤ n) :
    Decoder.Restores (Catalogue.value (n + 1)).decode v.datum := by
  induction v using Value.induction generalizing n with
  | scalar v hscalar =>
    cases v with
    | null => exact Decoder.restores_unitVariant rfl
    | boolean b => exact Decoder.restores_wrappedVariant rfl (Decoder.restores_of_eq rfl rfl)
    | integer i => exact Decoder.restores_wrappedVariant rfl (Decoder.restores_integer (holds_int64 i))
    | float x => exact Decoder.restores_wrappedVariant rfl (Decoder.restores_of_eq rfl rfl)
    | text s => exact Decoder.restores_wrappedVariant rfl (Decoder.restores_of_eq rfl rfl)
    | blob bs =>
      refine Decoder.restores_wrappedVariant rfl (Decoder.restores_sequence fun d hd => ?_)
      obtain ⟨b, -, rfl⟩ := List.mem_map.1 hd
      exact Decoder.restores_integer (holds_byte b)
    | dateTime t => exact Decoder.restores_wrappedVariant rfl (Decoder.restores_timestamp t)
    | array items => exact hscalar.elim
    | object entries => exact hscalar.elim
  | array items ih =>
    cases n with
    | zero => exact absurd hn (Nat.not_succ_le_zero _)
    | succ n =>
      rw [wellFormed_array] at hv
      rw [depth_array_le] at hn
      refine Decoder.restores_wrappedVariant rfl (Decoder.restores_sequence fun d hd => ?_)
      rw [itemData_eq_map] at hd
      obtain ⟨v, hmem, rfl⟩ := List.mem_map.1 hd
      exact ih v hmem (hv v hmem) (hn v hmem)
  | object entries ih =>
    cases n with
    | zero => exact absurd hn (Nat.not_succ_le_zero _)
    | succ n =>
      rw [wellFormed_object] at hv
      rw [depth_object_le] at hn
      have hsorted : Entries.Sorted (entryData entries) := by
        rw [entryData_eq_map, Entries.Sorted, List.map_map]
        exact hv.1
      refine Decoder.restores_wrappedVariant rfl (Decoder.restores_map hsorted (fun e _ => rfl) fun d hd => ?_)
      rw [entryData_eq_map] at hd
      obtain ⟨e, hmem, rfl⟩ := List.mem_map.1 hd
      exact ih e hmem (hv.2 e hmem) (hn e hmem)

/-! ### Telling values apart -/

theorem byte_injective : Function.Injective fun b : UInt8 => Datum.integer (Int64.ofInt b.toNat) := by
  intro b c h
  have heq : (b.toNat : Int) = c.toNat := by
    rw [← toInt_byte b, ← toInt_byte c, Datum.integer.inj h]
  exact UInt8.toNat_inj.1 (Int.ofNat_inj.1 heq)

theorem timestampDatum_injective : Function.Injective timestampDatum := by
  intro t u h
  have hread : (Except.ok t : Except DateFault Instant) = .ok u := by
    rw [← Instant.readRelaxed_rfc3339 t, ← Instant.readRelaxed_rfc3339 u, Datum.text.inj h]
  exact Except.ok.inj hread

theorem textEntries_injective : Function.Injective Decoder.textEntries := by
  refine List.map_injective_iff.2 ?_
  rintro ⟨k, d⟩ ⟨k', d'⟩ h
  obtain ⟨hkey, hvalue⟩ := Prod.mk.inj h
  exact Prod.ext (Datum.text.inj hkey) hvalue

theorem map_injective : Function.Injective Datum.map := by
  intro es es' h
  have hparts := Datum.mapping.inj h
  clear h
  induction es generalizing es' with
  | nil =>
    cases es' with
    | nil => rfl
    | cons e' es' => cases hparts
  | cons e es ih =>
    cases es' with
    | nil => cases hparts
    | cons e' es' =>
      obtain ⟨k, d⟩ := e
      obtain ⟨k', d'⟩ := e'
      injection hparts with hkey hrest
      injection hrest with hvalue hrest
      rw [MapPart.key.inj hkey, MapPart.value.inj hvalue, ih hrest]

/-- Lists whose items are told apart by `f` are told apart by it. -/
theorem eq_of_map_eq {α β : Type} {f : α → β} {as bs : List α} (hf : ∀ a ∈ as, ∀ b, f a = f b → a = b)
    (h : as.map f = bs.map f) : as = bs := by
  induction as generalizing bs with
  | nil => exact (List.map_eq_nil_iff.1 h.symm).symm
  | cons a as ih =>
    cases bs with
    | nil => cases h
    | cons b bs =>
      obtain ⟨hhead, htail⟩ := List.cons.inj h
      rw [hf a List.mem_cons_self b hhead, ih (fun a ha => hf a (List.mem_cons_of_mem _ ha)) htail]

/-- Different values are different data. -/
theorem eq_of_datum_eq {u v : Value} (h : u.datum = v.datum) : u = v := by
  induction u using Value.induction generalizing v with
  | scalar u hscalar =>
    cases u with
    | blob bs =>
      cases v with
      | blob cs =>
        have hbytes := Datum.sequence.inj (Datum.wrappedVariant.inj h).2
        exact congrArg blob (List.map_injective_iff.2 byte_injective hbytes)
      | _ => simp [datum] at h
    | dateTime t =>
      cases v with
      | dateTime u => exact congrArg dateTime (timestampDatum_injective (Datum.wrappedVariant.inj h).2)
      | _ => simp [datum] at h
    | array items => exact hscalar.elim
    | object entries => exact hscalar.elim
    | _ => cases v <;> simp_all [datum]
  | array items ih =>
    cases v with
    | array items' =>
      have hitems := Datum.sequence.inj (Datum.wrappedVariant.inj h).2
      rw [itemData_eq_map, itemData_eq_map] at hitems
      exact congrArg array (eq_of_map_eq (fun v hv w => ih v hv) hitems)
    | _ => simp [datum] at h
  | object entries ih =>
    cases v with
    | object entries' =>
      have hentries := textEntries_injective (map_injective (Datum.wrappedVariant.inj h).2)
      rw [entryData_eq_map, entryData_eq_map] at hentries
      refine congrArg object (eq_of_map_eq (fun e he e' heq => ?_) hentries)
      obtain ⟨hkey, hvalue⟩ := Prod.mk.inj heq
      exact Prod.ext hkey (ih e he hvalue)
    | _ => simp [datum] at h

/-! ### The round trip -/

theorem isNull_tagged (v : Value) : v.tagged.isNull = false := by
  cases v with
  | _ => rfl

/-- **A value that is stored as typed data is taken for itself.** It is stored with the names of kinds in it, and what
is taken for that is the data of this value and of no other. The type of values has to be unfolded as often as the value
nests. -/
theorem decode_tagged {v : Value} (hv : v.WellFormed) {n : Nat} (hn : v.depth < n) :
    v.datum.toValue = .ok v.tagged ∧ (Catalogue.value n).decodeOrDefault v.tagged = .ok v.datum ∧
      ∀ u : Value, u.datum = v.datum → u = v := by
  have hstored : v.datum.toValue = .ok v.tagged := Datum.toValue_eq_ok.2 (translation_datum hv)
  refine ⟨hstored, ?_, fun u => eq_of_datum_eq⟩
  obtain ⟨m, rfl⟩ : ∃ m, n = m + 1 := Nat.exists_eq_add_one_of_ne_zero (Nat.ne_zero_of_lt hn)
  rw [Shape.decodeOrDefault, isNull_tagged]
  exact (restores_datum hv (Nat.le_of_lt_succ hn)).toValue hstored

/-- An object that looks like a variant itself, with bytes, NULL and an empty object in it. -/
def taggedLooking : Value :=
  .object [("Null", .array [.null, .text "Null", .object []]), ("Text", .blob [0, 255])]

theorem taggedLooking_decode : taggedLooking.WellFormed ∧ taggedLooking.depth < 4 ∧
    (Catalogue.value 4).decodeOrDefault taggedLooking.tagged = .ok taggedLooking.datum := by
  have hwellFormed : taggedLooking.WellFormed :=
    ⟨by decide, ⟨trivial, trivial, ⟨by decide, trivial⟩, trivial⟩, trivial, trivial⟩
  have hdepth : taggedLooking.depth < 4 := by decide
  exact ⟨hwellFormed, hdepth, (decode_tagged hwellFormed hdepth).2.1⟩

end Value

end SqlFormula
