import SqlFormula.Proofs.Entries
import SqlFormula.Proofs.Outcome
import SqlFormula.Proofs.Typed.Encoding
import SqlFormula.Proofs.Value
import SqlFormula.Typed.Decode

/-!
# Typed data and values, part by part

A list of data is stored part by part, and a list of values is taken as data part by part: each result belongs to the
part in the same place. So do the entries of maps and the fields of structures.

## Main statements

- `Datum.toValue_eq_ok` — what is stored is the translation
- `Datum.itemTranslations_eq_some`, `Datum.fieldTranslations_eq_some`, `Datum.translation_map` — storing parts
- `Decoder.items_eq_ok`, `Decoder.zipItems_eq_ok`, `Decoder.entries_eq_ok` — taking parts
- `Decoder.ignore_eq_ok` — nothing is refused where nothing is expected
-/

namespace SqlFormula.Typed

/-! ### Storing -/

namespace Datum

theorem toValue_eq_ok {d : Datum} {v : Value} : d.toValue = .ok v ↔ d.translation = some v := by
  obtain ⟨slot, w, e, hrun, -, htranslation, hstored⟩ | ⟨error, e, hrun, -, htranslation⟩ :=
    yields_build [] d Encoder.empty
  · have hvalue : d.toValue = .ok w := by
      rw [toValue, hrun]
      exact hstored.finish
    rw [hvalue, htranslation, Except.ok.injEq, Option.some.injEq]
  · have herror : d.toValue = .error error := by
      rw [toValue, hrun]
    rw [herror, htranslation]
    simp only [reduceCtorEq]

theorem itemTranslations_eq_some {ds : List Datum} {vs : List Value} :
    itemTranslations ds = some vs ↔ List.Forall₂ (fun d v => d.translation = some v) ds vs := by
  induction ds generalizing vs with
  | nil =>
    rw [itemTranslations, Option.some.injEq, List.forall₂_nil_left_iff]
    exact eq_comm
  | cons d ds ih =>
    rw [itemTranslations, List.forall₂_cons_left_iff]
    simp only [Option.bind_eq_some_iff, Option.map_eq_some_iff, ih]
    constructor
    · rintro ⟨v, hv, vs, hvs, rfl⟩
      exact ⟨v, vs, hv, hvs, rfl⟩
    · rintro ⟨v, vs, hv, hvs, rfl⟩
      exact ⟨v, hv, vs, hvs, rfl⟩

theorem fieldTranslations_eq_some {fields : List (String × Datum)} {entries : List (String × Value)} :
    fieldTranslations fields = some entries ↔
      List.Forall₂ (fun f e => f.1 = e.1 ∧ f.2.translation = some e.2) fields entries := by
  induction fields generalizing entries with
  | nil =>
    rw [fieldTranslations, Option.some.injEq, List.forall₂_nil_left_iff]
    exact eq_comm
  | cons f fields ih =>
    obtain ⟨key, d⟩ := f
    rw [fieldTranslations, List.forall₂_cons_left_iff]
    simp only [Option.bind_eq_some_iff, Option.map_eq_some_iff, ih]
    constructor
    · rintro ⟨v, hv, entries, hentries, rfl⟩
      exact ⟨(key, v), entries, ⟨rfl, hv⟩, hentries, rfl⟩
    · rintro ⟨⟨_, v⟩, entries, ⟨rfl, hv⟩, hentries, rfl⟩
      exact ⟨v, hv, entries, hentries, rfl⟩

theorem textOf?_eq_some {v? : Option Value} {s : String} : textOf? v? = some s ↔ v? = some (.text s) := by
  constructor
  · intro h
    cases v? with
    | none => cases h
    | some v =>
      cases v with
      | text t => exact congrArg (some ∘ Value.text) (Option.some.inj h)
      | _ => cases h
  · rintro rfl
    rfl

/-- The keys of a map are stored as texts. -/
theorem partTranslations_eq_some {entries : List (Datum × Datum)} {stored : List (String × Value)} :
    partTranslations none (entries.flatMap fun (k, d) => [.key k, .value d]) = some stored ↔
      List.Forall₂ (fun p e => p.1.translation = some (.text e.1) ∧ p.2.translation = some e.2) entries stored := by
  induction entries generalizing stored with
  | nil =>
    rw [List.flatMap_nil, partTranslations, Option.some.injEq, List.forall₂_nil_left_iff]
    exact eq_comm
  | cons p entries ih =>
    obtain ⟨k, d⟩ := p
    rw [List.flatMap_cons, List.cons_append, List.cons_append, List.nil_append, partTranslations,
      List.forall₂_cons_left_iff]
    simp only [partTranslations, Option.bind_eq_some_iff, Option.map_eq_some_iff, Option.some.injEq, ih,
      textOf?_eq_some]
    constructor
    · rintro ⟨key, hk, _, rfl, v, hv, stored, hstored, rfl⟩
      exact ⟨(key, v), stored, ⟨hk, hv⟩, hstored, rfl⟩
    · rintro ⟨⟨key, v⟩, stored, ⟨hk, hv⟩, hstored, rfl⟩
      exact ⟨key, hk, _, rfl, v, hv, stored, hstored, rfl⟩

theorem translation_sequence {items : List Datum} {v : Value} : (sequence items).translation = some v ↔
    ∃ vs, List.Forall₂ (fun d v => d.translation = some v) items vs ∧ .array vs = v := by
  rw [translation, Option.map_eq_some_iff]
  simp only [itemTranslations_eq_some]

theorem translation_map {entries : List (Datum × Datum)} {v : Value} : (map entries).translation = some v ↔
    ∃ stored, List.Forall₂ (fun p e => p.1.translation = some (.text e.1) ∧ p.2.translation = some e.2) entries stored ∧
      .object (Entries.ofList stored) = v := by
  rw [map, translation, Option.map_eq_some_iff]
  simp only [partTranslations_eq_some]

theorem translation_struct {fields : List (String × Datum)} {v : Value} : (struct fields).translation = some v ↔
    ∃ stored, List.Forall₂ (fun f e => f.1 = e.1 ∧ f.2.translation = some e.2) fields stored ∧
      .object (Entries.ofList stored) = v := by
  rw [translation, Option.map_eq_some_iff]
  simp only [fieldTranslations_eq_some]

end Datum

/-! ### Taking -/

theorem under_eq_ok {α : Type} {step : Segment} {r : Except DecodeError α} {a : α} :
    under step r = .ok a ↔ r = .ok a := by
  cases r with
  | error e => exact ⟨nofun, nofun⟩
  | ok b => exact Iff.rfl

namespace Decoder

theorem items_eq_ok {α : Type} {item : Value → Except DecodeError α} {index : Nat} {vs : List Value} {as : List α} :
    items item index vs = .ok as ↔ List.Forall₂ (fun v a => item v = .ok a) vs as := by
  induction vs generalizing index as with
  | nil =>
    rw [items, Except.ok.injEq, List.forall₂_nil_left_iff]
    exact eq_comm
  | cons v vs ih =>
    rw [items, List.forall₂_cons_left_iff]
    simp only [bind_eq_ok, under_eq_ok, ih]
    constructor
    · rintro ⟨a, ha, as, has, ⟨⟩⟩
      exact ⟨a, as, ha, has, rfl⟩
    · rintro ⟨a, as, ha, has, rfl⟩
      exact ⟨a, ha, as, has, rfl⟩

/-- The decoders of a tuple take as many items from the front. -/
theorem zipItems_eq_ok {k : TupleKind} {index : Nat} {ds : List Decoder} {vs rest : List Value} {data : List Datum} :
    zipItems k index ds vs = .ok (data, rest) ↔
      ∃ taken, vs = taken ++ rest ∧ ds.length = taken.length ∧
        List.Forall₂ (fun (p : Decoder × Value) d => p.1 p.2 = .ok d) (ds.zip taken) data := by
  induction ds generalizing index vs rest data with
  | nil =>
    rw [zipItems, Except.ok.injEq, Prod.mk.injEq]
    constructor
    · rintro ⟨rfl, rfl⟩
      exact ⟨[], rfl, rfl, .nil⟩
    · rintro ⟨taken, rfl, hlength, hdata⟩
      obtain rfl := List.length_eq_zero_iff.1 hlength.symm
      obtain rfl := List.forall₂_nil_left_iff.1 hdata
      exact ⟨rfl, rfl⟩
  | cons d ds ih =>
    cases vs with
    | nil =>
      refine ⟨nofun, ?_⟩
      rintro ⟨taken, happend, hlength, -⟩
      obtain ⟨rfl, -⟩ := List.append_eq_nil_iff.1 happend.symm
      cases hlength
    | cons v vs =>
      rw [zipItems]
      simp only [bind_eq_ok, under_eq_ok, Prod.exists, ih]
      constructor
      · rintro ⟨datum, hdatum, data, rest, ⟨taken, rfl, hlength, hdata⟩, ⟨⟩⟩
        exact ⟨v :: taken, rfl, congrArg Nat.succ hlength, .cons hdatum hdata⟩
      · rintro ⟨taken, happend, hlength, hdata⟩
        cases taken with
        | nil => cases hlength
        | cons w taken =>
          obtain ⟨rfl, rfl⟩ := List.cons.inj happend
          obtain ⟨datum, data, hdatum, hrest, rfl⟩ := List.forall₂_cons_left_iff.1 hdata
          exact ⟨datum, hdatum, data, rest, ⟨taken, rfl, Nat.succ.inj hlength, hrest⟩, rfl⟩

theorem fixedItems_eq_ok {k : TupleKind} {ds : List Decoder} {vs : List Value} {data : List Datum} :
    fixedItems k ds vs = .ok data ↔ ds.length = vs.length ∧
      List.Forall₂ (fun (p : Decoder × Value) d => p.1 p.2 = .ok d) (ds.zip vs) data := by
  rw [fixedItems]
  simp only [bind_eq_ok, Prod.exists, zipItems_eq_ok]
  constructor
  · rintro ⟨data, rest, ⟨taken, rfl, hlength, hdata⟩, h⟩
    cases rest with
    | nil =>
      obtain rfl := Except.ok.inj h
      rw [List.append_nil]
      exact ⟨hlength, hdata⟩
    | cons v rest => cases h
  · rintro ⟨hlength, hdata⟩
    exact ⟨data, [], ⟨vs, (List.append_nil vs).symm, hlength, hdata⟩, rfl⟩

theorem entries_eq_ok {key value : Decoder} {es : List (String × Value)} {data : List (Datum × Datum)} :
    entries key value es = .ok data ↔
      List.Forall₂ (fun e p => key (.text e.1) = .ok p.1 ∧ value e.2 = .ok p.2) es data := by
  induction es generalizing data with
  | nil =>
    rw [entries, Except.ok.injEq, List.forall₂_nil_left_iff]
    exact eq_comm
  | cons e es ih =>
    obtain ⟨name, v⟩ := e
    rw [entries, List.forall₂_cons_left_iff]
    simp only [bind_eq_ok, under_eq_ok, ih]
    constructor
    · rintro ⟨k, hk, d, hd, data, hdata, ⟨⟩⟩
      exact ⟨(k, d), data, ⟨hk, hd⟩, hdata, rfl⟩
    · rintro ⟨⟨k, d⟩, data, ⟨hk, hd⟩, hdata, rfl⟩
      exact ⟨k, hk, d, hd, data, hdata, rfl⟩

/-! ### Passing over -/

theorem ignoreItems_eq_ok {vs : List Value} (h : ∀ v ∈ vs, ignore v = .ok ()) (index : Nat) :
    ignoreItems index vs = .ok [] := by
  induction vs generalizing index with
  | nil => rfl
  | cons v vs ih =>
    obtain ⟨hv, hvs⟩ := List.forall_mem_cons.1 h
    rw [ignoreItems, hv]
    exact ih hvs (index + 1)

theorem ignoreEntries_eq_ok {es : List (String × Value)} (h : ∀ e ∈ es, ignore e.2 = .ok ()) :
    ignoreEntries es = .ok () := by
  induction es with
  | nil => rfl
  | cons e es ih =>
    obtain ⟨he, hes⟩ := List.forall_mem_cons.1 h
    rw [ignoreEntries, he]
    exact ih hes

/-- Nothing is refused where nothing is expected. -/
theorem ignore_eq_ok (v : Value) : ignore v = .ok () := by
  induction v using Value.induction with
  | scalar v hv =>
    cases v with
    | array | object => exact hv.elim
    | _ => rfl
  | array items ih =>
    rw [ignore, ignoreItems_eq_ok ih]
    rfl
  | object entries ih =>
    rw [ignore]
    exact ignoreEntries_eq_ok ih

/-- Entries that are no fields are passed over. -/
theorem knownEntries_cons_of_none {fs : List Field} {name : String} (h : (fs.find? fun f => f.name == name) = none)
    (v : Value) (es : List (String × Value)) : knownEntries false fs ((name, v) :: es) = knownEntries false fs es := by
  rw [knownEntries, h, ignore_eq_ok]
  rfl

end Decoder

end SqlFormula.Typed
