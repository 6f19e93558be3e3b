import SqlFormula.Proofs.Instant.Relaxed
import SqlFormula.Proofs.Typed.Parts

/-!
# Typed data that comes back

A decoder restores data if it takes what the data is stored as for the same data again. Decoders made of others
restore data of which the others restore the parts.

## Main definitions

- `Decoder.Restores`

## Main statements

- `Decoder.restores_sequence`, `Decoder.restores_tuple`, `Decoder.restores_map` — collections
- `Decoder.restores_struct` — structures
- `Decoder.restores_wrappedVariant`, `Decoder.restores_structVariant` — the variants of sums
-/

namespace SqlFormula.Typed.Decoder

/-- What the data is stored as is taken for the data again. -/
def Restores (decode : Decoder) (d : Datum) : Prop :=
  ∀ w, d.translation = some w → decode w = .ok d

theorem Restores.toValue {decode : Decoder} {d : Datum} {w : Value} (h : Restores decode d) (hw : d.toValue = .ok w) :
    decode w = .ok d :=
  h w (Datum.toValue_eq_ok.1 hw)

/-- Data without parts is stored as one value. -/
theorem restores_of_eq {decode : Decoder} {d : Datum} {v : Value} (hv : d.translation = some v)
    (h : decode v = .ok d) : Restores decode d := by
  intro w hw
  obtain rfl := Option.some.inj (hv.symm.trans hw)
  exact h

/-- Integers of a type come back from 64 bits with a sign; wider ones are not stored. -/
theorem restores_integer {k : IntegerKind} {i : Int64} (h : k.holds i.toInt = true) :
    Restores (integer k) (k.datum i) := by
  intro w hw
  rw [IntegerKind.datum] at hw
  split at hw
  · cases hw
  · obtain rfl := Option.some.inj hw
    exact if_pos h

theorem timestamp_text {s : String} {t : Instant} (h : readRelaxed s = .ok t) :
    timestamp (.text s) = .ok (timestampDatum t) := by
  rw [timestamp]
  simp only [offered, h]

/-- A date and time that is stored as its text comes back. -/
theorem restores_timestamp (t : Instant) : Restores timestamp (timestampDatum t) :=
  restores_of_eq rfl (timestamp_text t.readRelaxed_rfc3339)

theorem dateTime_of_textOf {v : Value} {s : String} {t : Instant} (hs : textOf v = .ok s)
    (h : Instant.ofText? s = some t) : dateTime v = .ok (dateTimeDatum t) := by
  refine bind_eq_ok.2 ⟨s, hs, ?_⟩
  simp only [h]
  rfl

theorem translation_dateTime (s : String) :
    (Datum.dateTime (.text s)).translation = (Instant.ofText? s).map .dateTime :=
  rfl

/-- A date and time that is stored as one comes back if its text is read back. -/
theorem restores_dateTime (t : Instant) : Restores dateTime (dateTimeDatum t) := by
  intro w hw
  rw [dateTimeDatum, translation_dateTime] at hw
  obtain ⟨u, hu, rfl⟩ := Option.map_eq_some_iff.1 hw
  have heq : u = t := by
    rw [Instant.ofText?_text_eq] at hu
    split at hu
    · exact (Option.some.inj hu).symm
    · cases hu
  subst heq
  exact dateTime_of_textOf rfl hu

/-! ### Collections -/

theorem items_of_restores {item : Decoder} {ds : List Datum} {vs : List Value} (h : ∀ d ∈ ds, Restores item d)
    (hvs : List.Forall₂ (fun d v => d.translation = some v) ds vs) (index : Nat) : items item index vs = .ok ds := by
  refine items_eq_ok.2 (List.Forall₂.flip ?_)
  exact ((List.forall₂_and_left _ _).2 ⟨h, hvs⟩).imp fun d v hdv => hdv.1 v hdv.2

theorem restores_sequence {item : Decoder} {ds : List Datum} (h : ∀ d ∈ ds, Restores item d) :
    Restores (sequence item) (.sequence ds) := by
  intro w hw
  obtain ⟨vs, hvs, rfl⟩ := Datum.translation_sequence.1 hw
  rw [sequence]
  simp only [bind_eq_ok]
  exact ⟨vs, rfl, ds, items_of_restores h hvs 0, rfl⟩

theorem fixedItems_of_restores {k : TupleKind} {decoders : List Decoder} {ds : List Datum} {vs : List Value}
    (h : List.Forall₂ Restores decoders ds) (hvs : List.Forall₂ (fun d v => d.translation = some v) ds vs) :
    fixedItems k decoders vs = .ok ds := by
  refine fixedItems_eq_ok.2 ⟨h.length_eq.trans hvs.length_eq, ?_⟩
  induction h generalizing vs with
  | nil =>
    obtain rfl := List.forall₂_nil_left_iff.1 hvs
    exact .nil
  | cons hd _ ih =>
    obtain ⟨v, vs, hv, hrest, rfl⟩ := List.forall₂_cons_left_iff.1 hvs
    exact .cons (hd v hv) (ih hrest)

theorem restores_tuple {k : TupleKind} {decoders : List Decoder} {ds : List Datum}
    (h : List.Forall₂ Restores decoders ds) : Restores (tuple k decoders) (.sequence ds) := by
  intro w hw
  obtain ⟨vs, hvs, rfl⟩ := Datum.translation_sequence.1 hw
  rw [tuple]
  simp only [bind_eq_ok]
  exact ⟨vs, rfl, ds, fixedItems_of_restores h hvs, rfl⟩

/-- The data of a map with texts as keys. -/
def textEntries (es : List (String × Datum)) : List (Datum × Datum) :=
  es.map fun e => (.text e.1, e.2)

theorem entries_of_restores {key value : Decoder} {es : List (String × Datum)} {stored : List (String × Value)}
    (hkeys : ∀ e ∈ es, key (.text e.1) = .ok (.text e.1)) (h : ∀ e ∈ es, Restores value e.2)
    (hstored : List.Forall₂ (fun e s => e.1 = s.1 ∧ e.2.translation = some s.2) es stored) :
    entries key value stored = .ok (textEntries es) := by
  refine entries_eq_ok.2 (List.forall₂_map_right_iff.2 (List.Forall₂.flip ?_))
  refine ((List.forall₂_and_left _ _).2 ⟨fun e he => And.intro (hkeys e he) (h e he), hstored⟩).imp ?_
  rintro e s ⟨⟨hkey, hvalue⟩, heq, hs⟩
  exact ⟨heq ▸ hkey, hvalue s.2 hs⟩

/-- The keys of a stored structure are the names of its fields. -/
theorem keys_eq_of_stored {es : List (String × Datum)} {stored : List (String × Value)}
    (h : List.Forall₂ (fun e s => e.1 = s.1 ∧ e.2.translation = some s.2) es stored) :
    stored.map Prod.fst = es.map Prod.fst := by
  induction h with
  | nil => rfl
  | cons h _ ih => rw [List.map_cons, List.map_cons, ih, h.1]

theorem translation_textEntries {es : List (String × Datum)} {w : Value} :
    (Datum.map (textEntries es)).translation = some w ↔
      ∃ stored, List.Forall₂ (fun e s => e.1 = s.1 ∧ e.2.translation = some s.2) es stored ∧
        .object (Entries.ofList stored) = w := by
  rw [Datum.translation_map, textEntries]
  simp only [List.forall₂_map_left_iff, Datum.translation, Option.some.injEq, Value.text.injEq]

theorem restores_map {key value : Decoder} {es : List (String × Datum)} (hsorted : Entries.Sorted es)
    (hkeys : ∀ e ∈ es, key (.text e.1) = .ok (.text e.1)) (h : ∀ e ∈ es, Restores value e.2) :
    Restores (map key value) (.map (textEntries es)) := by
  intro w hw
  obtain ⟨stored, hstored, rfl⟩ := translation_textEntries.1 hw
  have hordered : Entries.Sorted stored := by
    rw [Entries.Sorted, keys_eq_of_stored hstored]
    exact hsorted
  rw [Entries.ofList_of_sorted hordered]
  show (do return Datum.map (← entries key value stored)) = _
  rw [bind_eq_ok]
  exact ⟨textEntries es, entries_of_restores hkeys h hstored, rfl⟩

/-! ### Structures -/

theorem knownEntries_of_forall {closed : Bool} {fs : List Field} {es : List (String × Value)} {g : String → Datum}
    (h : ∀ e ∈ es, ∃ f, (fs.find? fun f => f.name == e.1) = some f ∧ f.decode e.2 = .ok (g e.1)) :
    knownEntries closed fs es = .ok (es.map fun e => (e.1, g e.1)) := by
  induction es with
  | nil => rfl
  | cons e es ih =>
    obtain ⟨name, v⟩ := e
    obtain ⟨f, hfind, hdecode⟩ := h _ List.mem_cons_self
    rw [knownEntries, hfind]
    simp only [bind_eq_ok, under_eq_ok]
    exact ⟨g name, hdecode, _, ih fun e he => h e (List.mem_cons_of_mem _ he), rfl⟩

theorem lookup_map_key {α β : Type} {es : List (String × α)} {g : String → β} (k : String) :
    (es.map fun e => (e.1, g e.1)).lookup k = (Entries.find? k es).map fun _ => g k := by
  induction es with
  | nil => rfl
  | cons e es ih =>
    rw [List.map_cons, Entries.find?_cons]
    show Entries.find? k _ = _
    rw [Entries.find?_cons]
    split
    · next heq => rw [heq]; rfl
    · exact ih

/-- Fields that were all found are complete. -/
theorem complete_of_forall₂ {found : List (String × Datum)} {fs : List Field} {ds : List (String × Datum)}
    (h : List.Forall₂ (fun f e => f.name = e.1 ∧ found.lookup f.name = some e.2) fs ds) :
    complete found fs = .ok ds := by
  induction h with
  | nil => rfl
  | @cons f e fs ds h _ ih =>
    rw [complete, h.2, ih, h.1]
    rfl

/-- Where names differ, the first field of a name is the one. -/
theorem find?_field {fs : List Field} (h : (fs.map Field.name).Nodup) {f : Field} (hmem : f ∈ fs) :
    (fs.find? fun f' => f'.name == f.name) = some f := by
  induction fs with
  | nil => nomatch hmem
  | cons f' fs ih =>
    obtain ⟨hnotMem, hnodup⟩ := List.nodup_cons.1 h
    obtain rfl | hrest := List.mem_cons.1 hmem
    · exact List.find?_cons_of_pos (beq_self_eq_true f.name)
    · have hne : f'.name ≠ f.name := fun heq => hnotMem (heq ▸ List.mem_map_of_mem hrest)
      rw [List.find?_cons, beq_eq_false_iff_ne.2 hne]
      exact ih hnodup hrest

theorem fields_of_restores {closed : Bool} {fs : List Field} {ds : List (String × Datum)}
    {stored : List (String × Value)} (hnames : (fs.map Field.name).Nodup)
    (h : List.Forall₂ (fun f e => f.name = e.1 ∧ Restores f.decode e.2) fs ds)
    (hstored : List.Forall₂ (fun e s => e.1 = s.1 ∧ e.2.translation = some s.2) ds stored) :
    fields closed fs (Entries.ofList stored) = .ok ds := by
  have hkeys : fs.map Field.name = ds.map Prod.fst := by
    clear hnames hstored
    induction h with
    | nil => rfl
    | cons h _ ih => rw [List.map_cons, List.map_cons, ih, h.1]
  -- what belongs to a name does not depend on the order of the entries
  let g : String → Datum := fun name => (Entries.find? name ds).getD .nothing
  have hg : ∀ e ∈ ds, g e.1 = e.2 := fun e he =>
    congrArg (Option.getD · _) (Entries.find?_of_mem (hkeys ▸ hnames) he)
  have hknown : ∀ s ∈ Entries.ofList stored, ∃ f, (fs.find? fun f => f.name == s.1) = some f ∧
      f.decode s.2 = .ok (g s.1) := by
    intro s hs
    obtain ⟨i, hi, rfl⟩ := List.getElem_of_mem (Entries.mem_ofList hs)
    have hid : i < ds.length := hstored.length_eq ▸ hi
    have hif : i < fs.length := h.length_eq ▸ hid
    obtain ⟨hname, hrestores⟩ := h.get hif hid
    obtain ⟨hkey, htranslation⟩ := hstored.get hid hi
    refine ⟨fs[i], ?_, ?_⟩
    · exact (hname.trans hkey) ▸ find?_field hnames (List.getElem_mem hif)
    · exact (hrestores _ htranslation).trans (congrArg _ (hkey ▸ (hg _ (List.getElem_mem hid)).symm))
  rw [fields, bind_eq_ok]
  refine ⟨_, knownEntries_of_forall hknown, complete_of_forall₂ ?_⟩
  have hfound : ∀ e ∈ ds, (Entries.find? e.1 (Entries.ofList stored)).isSome := by
    intro e he
    have hmem : e.1 ∈ stored.map Prod.fst := keys_eq_of_stored hstored ▸ List.mem_map_of_mem he
    obtain ⟨s, hs, heq⟩ := List.mem_map.1 hmem
    rw [← heq, Entries.find?_ofList]
    exact Entries.find?_isSome_of_mem (List.mem_reverse.2 hs)
  refine (((List.forall₂_and_left _ _).2 ⟨fun e he => And.intro (hfound e he) (hg e he), h.flip⟩).imp ?_).flip
  rintro e f ⟨⟨hsome, hvalue⟩, hname, -⟩
  obtain ⟨v, hv⟩ := Option.isSome_iff_exists.1 hsome
  refine ⟨hname, ?_⟩
  rw [lookup_map_key, hname, hv, Option.map_some, hvalue]

theorem restores_struct {name : String} {closed : Bool} {fs : List Field} {ds : List (String × Datum)}
    (hnames : (fs.map Field.name).Nodup) (h : List.Forall₂ (fun f e => f.name = e.1 ∧ Restores f.decode e.2) fs ds) :
    Restores (struct name closed fs) (.struct ds) := by
  intro w hw
  obtain ⟨stored, hstored, rfl⟩ := Datum.translation_struct.1 hw
  rw [struct, bind_eq_ok]
  exact ⟨ds, fields_of_restores hnames h hstored, rfl⟩

/-! ### Options and wrapped data -/

theorem restores_wrapped {decode : Decoder} {d : Datum} (h : Restores decode d) :
    Restores (fun v => (decode v).map .wrapped) (.wrapped d) :=
  fun w hw => map_eq_ok.2 ⟨d, h w hw, rfl⟩

theorem restores_nothing {decode : Decoder} :
    Restores (fun v => if v.isNull then .ok .nothing else (decode v).map .wrapped) .nothing :=
  restores_of_eq rfl rfl

/-- A present option comes back if it is not stored as NULL. -/
theorem restores_present {decode : Decoder} {d : Datum} (h : Restores decode d) (hd : d.translation ≠ some .null) :
    Restores (fun v => if v.isNull then .ok .nothing else (decode v).map .wrapped) (.wrapped d) := by
  intro w hw
  have hnull : w.isNull = false := by
    cases w with
    | null => exact absurd hw hd
    | _ => rfl
  simp only [hnull, Bool.false_eq_true, if_false]
  exact map_eq_ok.2 ⟨d, h w hw, rfl⟩

/-! ### Sums -/

section

variable {variants : List (String × VariantDecoder)} {sumName name : String}

theorem variant_of_lookup {dec : VariantDecoder} (h : variants.lookup name = some dec) (v? : Option Value) :
    variant variants name v? = dec v? := by
  rw [variant, h]

theorem restores_unitVariant (h : variants.lookup name = some (unitVariant name)) :
    Restores (sum variants) (.unitVariant name) :=
  restores_of_eq rfl (variant_of_lookup h none)

theorem restores_wrappedVariant {decode : Decoder} {d : Datum}
    (h : variants.lookup name = some (wrappedVariant name decode)) (hd : Restores decode d) :
    Restores (sum variants) (.wrappedVariant name d) := by
  intro w hw
  obtain ⟨v, hv, rfl⟩ := Option.map_eq_some_iff.1 hw
  rw [sum, variant_of_lookup h, wrappedVariant, bind_eq_ok]
  exact ⟨d, under_eq_ok.2 (hd v hv), rfl⟩

theorem restores_tupleVariant {decoders : List Decoder} {ds : List Datum}
    (h : variants.lookup name = some (tupleVariant sumName name decoders))
    (hds : List.Forall₂ Restores decoders ds) : Restores (sum variants) (.tupleVariant name ds) := by
  intro w hw
  obtain ⟨vs, hvs, rfl⟩ := Option.map_eq_some_iff.1 hw
  rw [sum, variant_of_lookup h, tupleVariant, bind_eq_ok]
  exact ⟨ds, under_eq_ok.2 (fixedItems_of_restores hds (Datum.itemTranslations_eq_some.1 hvs)), rfl⟩

theorem restores_structVariant {fs : List Field} {ds : List (String × Datum)}
    (h : variants.lookup name = some (structVariant name fs)) (hnames : (fs.map Field.name).Nodup)
    (hds : List.Forall₂ (fun f e => f.name = e.1 ∧ Restores f.decode e.2) fs ds) :
    Restores (sum variants) (.structVariant name ds) := by
  intro w hw
  obtain ⟨stored, hstored, rfl⟩ := Option.map_eq_some_iff.1 hw
  rw [sum, variant_of_lookup h, structVariant, bind_eq_ok]
  exact ⟨ds, under_eq_ok.2 (fields_of_restores hnames hds (Datum.fieldTranslations_eq_some.1 hstored)), rfl⟩

end

end SqlFormula.Typed.Decoder
