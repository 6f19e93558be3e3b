import SqlFormula.Proofs.Number.Single
import SqlFormula.Proofs.Typed.Restoring
import SqlFormula.Proofs.Value

/-!
# Decoders whose results come back

Many values are taken for the same data: integers for floats, blobs for sequences, texts for bytes, NULL for what is
missing. A decoder is normal if it restores all data that it takes from anything. Decoders made of normal ones are
normal.

## Main definitions

- `Decoder.Normal`, `Decoder.NormalVariant`

## Main statements

- `Decoder.normal_single`, `Decoder.normal_dateTime`, `Decoder.normal_any` — scalars, and what JSON can say
- `Decoder.normal_sequence`, `Decoder.normal_tuple`, `Decoder.normal_map` — collections
- `Decoder.normal_struct`, `Decoder.normal_sum` — structures and sums
-/

namespace SqlFormula.Typed.Decoder

/-- All data that is taken from well-formed values comes back. -/
def Normal (decode : Decoder) : Prop :=
  ∀ v d, v.WellFormed → decode v = .ok d → Restores decode d

/-! ### Scalars -/

theorem normal_null (expected : String) : Normal (null expected) := by
  intro v d _ hd
  cases v with
  | null =>
    obtain rfl := Except.ok.inj hd
    exact restores_of_eq rfl rfl
  | _ => cases hd

theorem normal_boolean : Normal boolean := by
  intro v d _ hd
  rw [boolean] at hd
  split at hd
  · obtain rfl := Except.ok.inj hd
    exact restores_of_eq rfl rfl
  · cases hd

theorem normal_integer (k : IntegerKind) : Normal (integer k) := by
  intro v d _ hd
  rw [integer] at hd
  split at hd
  · split at hd
    · next hholds =>
      obtain rfl := Except.ok.inj hd
      exact restores_integer hholds
    · cases hd
  · cases hd

theorem normal_double : Normal double := by
  intro v d _ hd
  rw [double] at hd
  split at hd
  · obtain rfl := Except.ok.inj hd
    exact restores_of_eq rfl rfl
  · obtain rfl := Except.ok.inj hd
    exact restores_of_eq rfl rfl
  · cases hd

/-- A single is not rounded again. -/
theorem normal_single : Normal single := by
  have hsingle {x : Float} (h : Number.toSingle x = x) : Restores single (.float x) :=
    restores_of_eq rfl (congrArg (fun y => Except.ok (Datum.float y)) h)
  intro v d _ hd
  rw [single] at hd
  split at hd
  · obtain rfl := Except.ok.inj hd
    exact hsingle (Number.toSingle_nearest _ Nat.one_pos)
  · obtain rfl := Except.ok.inj hd
    exact hsingle (Number.toSingle_toSingle _)
  · cases hd

theorem normal_char : Normal char := by
  intro v d _ hd
  rw [char] at hd
  split at hd
  · split at hd
    · next hlength =>
      obtain rfl := Except.ok.inj hd
      exact restores_of_eq rfl (if_pos hlength)
    · cases hd
  · cases hd

theorem normal_text : Normal text := by
  intro v d _ hd
  rw [text, bind_eq_ok] at hd
  obtain ⟨s, -, ⟨⟩⟩ := hd
  exact restores_of_eq rfl rfl

theorem normal_dateTime : Normal dateTime := by
  intro v d _ hd
  rw [dateTime, bind_eq_ok] at hd
  obtain ⟨s, -, hd⟩ := hd
  split at hd
  · next t _ =>
    obtain rfl := Except.ok.inj hd
    exact restores_dateTime t
  · cases hd

theorem normal_timestamp : Normal timestamp := by
  intro v d _ hd
  rw [timestamp] at hd
  split at hd
  · split at hd
    · next t _ =>
      obtain rfl := Except.ok.inj hd
      exact restores_timestamp t
    · cases hd
  · cases hd

theorem normal_bytes : Normal bytes := by
  intro v d _ hd
  have hbytes : ∃ bs, d = .bytes bs := by
    rw [bytes] at hd
    split at hd
    · exact ⟨_, (Except.ok.inj hd).symm⟩
    · exact ⟨_, (Except.ok.inj hd).symm⟩
    · obtain ⟨bs, -, hbs⟩ := bind_eq_ok.1 hd
      exact ⟨bs, (Except.ok.inj hbs).symm⟩
    · cases hd
  obtain ⟨bs, rfl⟩ := hbytes
  exact restores_of_eq rfl rfl

/-! ### Collections -/

theorem wellFormed_of_itemsOf {expected : String} {v : Value} {vs : List Value} (hv : v.WellFormed)
    (h : itemsOf expected v = .ok vs) : ∀ v ∈ vs, v.WellFormed := by
  cases v with
  | array items =>
    obtain rfl := Except.ok.inj h
    exact Value.wellFormed_array.1 hv
  | blob bs =>
    obtain rfl := Except.ok.inj h
    intro v hmem
    obtain ⟨b, -, rfl⟩ := List.mem_map.1 hmem
    trivial
  | _ => cases h

theorem restores_of_items {item : Decoder} {vs : List Value} {ds : List Datum}
    (h : ∀ v ∈ vs, ∀ d, item v = .ok d → Restores item d)
    (hds : List.Forall₂ (fun v d => item v = .ok d) vs ds) : ∀ d ∈ ds, Restores item d := by
  induction hds with
  | nil => exact List.forall_mem_nil _
  | cons hd _ ih =>
    obtain ⟨hv, hrest⟩ := List.forall_mem_cons.1 h
    exact List.forall_mem_cons.2 ⟨hv _ hd, ih hrest⟩

theorem normal_sequence {item : Decoder} (h : Normal item) : Normal (sequence item) := by
  intro v d hv hd
  rw [sequence] at hd
  simp only [bind_eq_ok] at hd
  obtain ⟨vs, hvs, ds, hds, ⟨⟩⟩ := hd
  have hwellFormed := wellFormed_of_itemsOf hv hvs
  exact restores_sequence (restores_of_items (fun v hmem d => h v d (hwellFormed v hmem)) (items_eq_ok.1 hds))

theorem restores_of_fixedItems {k : TupleKind} {decoders : List Decoder} {vs : List Value} {ds : List Datum}
    (h : ∀ decode ∈ decoders, Normal decode) (hvs : ∀ v ∈ vs, v.WellFormed)
    (hds : fixedItems k decoders vs = .ok ds) : List.Forall₂ Restores decoders ds := by
  obtain ⟨hlength, hzip⟩ := fixedItems_eq_ok.1 hds
  clear hds
  induction decoders generalizing vs ds with
  | nil =>
    rw [List.zip_nil_left, List.forall₂_nil_left_iff] at hzip
    exact hzip ▸ .nil
  | cons decode decoders ih =>
    cases vs with
    | nil => cases hlength
    | cons v vs =>
      obtain ⟨hdecode, hdecoders⟩ := List.forall_mem_cons.1 h
      obtain ⟨hv, hrest⟩ := List.forall_mem_cons.1 hvs
      obtain ⟨d, ds, hd, hlater, rfl⟩ := List.forall₂_cons_left_iff.1 hzip
      exact .cons (hdecode v d hv hd) (ih hdecoders hrest (Nat.succ.inj hlength) hlater)

theorem normal_tuple {k : TupleKind} {decoders : List Decoder} (h : ∀ decode ∈ decoders, Normal decode) :
    Normal (tuple k decoders) := by
  intro v d hv hd
  rw [tuple] at hd
  simp only [bind_eq_ok] at hd
  obtain ⟨vs, hvs, ds, hds, ⟨⟩⟩ := hd
  exact restores_tuple (restores_of_fixedItems h (wellFormed_of_itemsOf hv hvs) hds)

/-- A text that is taken as a key stays what it is. -/
def KeepsKeys (key : Decoder) : Prop :=
  ∀ s k, key (.text s) = .ok k → k = .text s

theorem restores_of_entries {key value : Decoder} {es : List (String × Value)} {data : List (Datum × Datum)}
    (hkey : KeepsKeys key) (hsorted : Entries.Sorted es) (h : ∀ e ∈ es, ∀ d, value e.2 = .ok d → Restores value d)
    (hdata : entries key value es = .ok data) : Restores (map key value) (.map data) := by
  have hfields : ∃ fields : List (String × Datum), data = textEntries fields ∧
      fields.map Prod.fst = es.map Prod.fst ∧
      (∀ f ∈ fields, key (.text f.1) = .ok (.text f.1)) ∧ ∀ f ∈ fields, Restores value f.2 := by
    replace hdata := entries_eq_ok.1 hdata
    clear hsorted
    induction hdata with
    | nil => exact ⟨[], rfl, rfl, List.forall_mem_nil _, List.forall_mem_nil _⟩
    | @cons e p es data hp _ ih =>
      obtain ⟨he, hrest⟩ := List.forall_mem_cons.1 h
      obtain ⟨fields, rfl, hnames, hkeys, hvalues⟩ := ih hrest
      obtain ⟨hk, hd⟩ := hp
      have htext := hkey _ _ hk
      refine ⟨(e.1, p.2) :: fields, congrArg (· :: _) (Prod.ext htext rfl), congrArg (e.1 :: ·) hnames, ?_, ?_⟩
      · exact List.forall_mem_cons.2 ⟨htext ▸ hk, hkeys⟩
      · exact List.forall_mem_cons.2 ⟨he _ hd, hvalues⟩
  obtain ⟨fields, rfl, hnames, hkeys, hvalues⟩ := hfields
  refine restores_map ?_ hkeys hvalues
  rw [Entries.Sorted, hnames]
  exact hsorted

theorem normal_map {key value : Decoder} (hkey : KeepsKeys key) (hvalue : Normal value) :
    Normal (map key value) := by
  intro v d hv hd
  rw [map] at hd
  split at hd
  · next es hobject =>
    obtain ⟨data, hdata, ⟨⟩⟩ := bind_eq_ok.1 hd
    have hwellFormed : (Value.object es).WellFormed := by
      rw [← hobject]
      cases v with
      | dateTime t => trivial
      | _ => exact hv
    obtain ⟨hsorted, hes⟩ := Value.wellFormed_object.1 hwellFormed
    exact restores_of_entries hkey hsorted (fun e he d => hvalue e.2 d (hes e he)) hdata
  · cases hd

/-! ### Structures -/

/-- What was found belongs to the known fields of the entries. -/
theorem mem_of_knownEntries {closed : Bool} {fs : List Field} {es : List (String × Value)}
    {found : List (String × Datum)} (h : knownEntries closed fs es = .ok found) {name : String} {d : Datum}
    (hmem : (name, d) ∈ found) :
    ∃ e ∈ es, e.1 = name ∧ ∃ f, (fs.find? fun f => f.name == name) = some f ∧ f.decode e.2 = .ok d := by
  induction es generalizing found with
  | nil =>
    obtain rfl := Except.ok.inj h
    nomatch hmem
  | cons e es ih =>
    obtain ⟨key, v⟩ := e
    rw [knownEntries] at h
    have hlater {found : List (String × Datum)} (h : knownEntries closed fs es = .ok found)
        (hmem : (name, d) ∈ found) : ∃ e ∈ (key, v) :: es, e.1 = name ∧
          ∃ f, (fs.find? fun f => f.name == name) = some f ∧ f.decode e.2 = .ok d := by
      obtain ⟨e, he, hrest⟩ := ih h hmem
      exact ⟨e, List.mem_cons_of_mem _ he, hrest⟩
    split at h
    · next f hfind =>
      simp only [bind_eq_ok, under_eq_ok] at h
      obtain ⟨d', hd', rest, hrest, ⟨⟩⟩ := h
      obtain heq | hmem := List.mem_cons.1 hmem
      · obtain ⟨rfl, rfl⟩ := Prod.mk.inj heq
        exact ⟨_, List.mem_cons_self, rfl, f, hfind, hd'⟩
      · exact hlater hrest hmem
    · split at h
      · cases h
      · rw [ignore_eq_ok] at h
        exact hlater h hmem

/-- A field was found, or something stands for it. -/
theorem forall₂_of_complete {found : List (String × Datum)} {fs : List Field} {ds : List (String × Datum)}
    (h : complete found fs = .ok ds) :
    List.Forall₂ (fun f e => f.name = e.1 ∧ ((f.name, e.2) ∈ found ∨ f.absent = .ok e.2)) fs ds := by
  induction fs generalizing ds with
  | nil =>
    obtain rfl := Except.ok.inj h
    exact .nil
  | cons f fs ih =>
    rw [complete] at h
    cases hlookup : found.lookup f.name with
    | some d =>
      rw [hlookup] at h
      obtain ⟨_, ⟨⟩, hlater⟩ := bind_eq_ok.1 h
      obtain ⟨rest, hrest, ⟨⟩⟩ := bind_eq_ok.1 hlater
      obtain ⟨before, after, rfl, -⟩ := List.lookup_eq_some_iff.1 hlookup
      exact .cons ⟨rfl, .inl (List.mem_append_right _ List.mem_cons_self)⟩ (ih hrest)
    | none =>
      rw [hlookup] at h
      obtain ⟨d, habsent, hlater⟩ := bind_eq_ok.1 h
      obtain ⟨rest, hrest, ⟨⟩⟩ := bind_eq_ok.1 hlater
      exact .cons ⟨rfl, .inr habsent⟩ (ih hrest)

/-- A field is normal if what stands for it comes back, too. -/
structure Field.Normal (f : Field) : Prop where
  decode : Decoder.Normal f.decode
  absent : ∀ d, f.absent = .ok d → Restores f.decode d

theorem restores_of_fields {closed : Bool} {fs : List Field} {es : List (String × Value)} {ds : List (String × Datum)}
    (hnames : (fs.map Field.name).Nodup) (h : ∀ f ∈ fs, f.Normal) (hes : ∀ e ∈ es, e.2.WellFormed)
    (hds : fields closed fs es = .ok ds) : List.Forall₂ (fun f e => f.name = e.1 ∧ Restores f.decode e.2) fs ds := by
  rw [fields, bind_eq_ok] at hds
  obtain ⟨found, hfound, hds⟩ := hds
  refine ((List.forall₂_and_left _ _).2 ⟨fun f hf => hf, forall₂_of_complete hds⟩).imp ?_
  rintro f ⟨name, d⟩ ⟨hf, hname, hmem | habsent⟩
  · refine ⟨hname, ?_⟩
    obtain ⟨e, he, -, f', hfind, hdecode⟩ := mem_of_knownEntries hfound hmem
    rw [find?_field hnames hf] at hfind
    obtain rfl := Option.some.inj hfind
    exact (h f hf).decode _ _ (hes e he) hdecode
  · exact ⟨hname, (h f hf).absent d habsent⟩

theorem normal_struct {name : String} {closed : Bool} {fs : List Field} (hnames : (fs.map Field.name).Nodup)
    (h : ∀ f ∈ fs, f.Normal) : Normal (struct name closed fs) := by
  intro v d hv hd
  cases v with
  | object es =>
    obtain ⟨ds, hds, ⟨⟩⟩ := bind_eq_ok.1 hd
    exact restores_struct hnames (restores_of_fields hnames h (Value.wellFormed_object.1 hv).2 hds)
  | null =>
    obtain ⟨ds, hds, ⟨⟩⟩ := bind_eq_ok.1 hd
    exact restores_struct hnames (restores_of_fields hnames h (List.forall_mem_nil _) hds)
  | _ => cases hd

/-! ### Options and wrapped data -/

theorem normal_wrapped {decode : Decoder} (h : Normal decode) : Normal fun v => (decode v).map .wrapped := by
  intro v _ hv hd
  obtain ⟨d, hd', rfl⟩ := map_eq_ok.1 hd
  exact restores_wrapped (h v d hv hd')

/-- An option is normal if what is present is not stored as NULL. -/
theorem normal_optional {decode : Decoder} (h : Normal decode)
    (hpresent : ∀ v d, v.WellFormed → v.isNull = false → decode v = .ok d → d.translation ≠ some .null) :
    Normal fun v => if v.isNull then .ok .nothing else (decode v).map .wrapped := by
  intro v d hv hd
  by_cases hnull : v.isNull = true
  · obtain rfl := Except.ok.inj ((if_pos hnull).symm.trans hd)
    exact restores_nothing
  · obtain ⟨d, hd', rfl⟩ := map_eq_ok.1 ((if_neg hnull).symm.trans hd)
    exact restores_present (h v d hv hd') (hpresent v d hv (Bool.eq_false_of_not_eq_true hnull) hd')

/-! ### Sums -/

/-- All data that is taken from what comes with the name of a variant comes back in every sum with the variant. -/
def NormalVariant (name : String) (decode : VariantDecoder) : Prop :=
  ∀ v? d, (∀ v ∈ v?, Value.WellFormed v) → decode v? = .ok d →
    ∀ variants : List (String × VariantDecoder), variants.lookup name = some decode → Restores (sum variants) d

theorem normalVariant_unit (name : String) : NormalVariant name (unitVariant name) := by
  intro v? d _ hd variants hlookup
  have heq : d = .unitVariant name := by
    cases v? with
    | none => exact (Except.ok.inj hd).symm
    | some v =>
      cases v with
      | null => exact (Except.ok.inj hd).symm
      | _ => cases hd
  rw [heq]
  exact restores_unitVariant hlookup

theorem normalVariant_wrapped {name : String} {decode : Decoder} (h : Normal decode) :
    NormalVariant name (wrappedVariant name decode) := by
  intro v? d hv hd variants hlookup
  cases v? with
  | none => cases hd
  | some v =>
    obtain ⟨d, hd', ⟨⟩⟩ := bind_eq_ok.1 hd
    exact restores_wrappedVariant hlookup (h v d (hv v rfl) (under_eq_ok.1 hd'))

theorem normalVariant_tuple {sumName name : String} {decoders : List Decoder}
    (h : ∀ decode ∈ decoders, Normal decode) : NormalVariant name (tupleVariant sumName name decoders) := by
  intro v? d hv hd variants hlookup
  cases v? with
  | none => cases hd
  | some v =>
    cases v with
    | array vs =>
      obtain ⟨ds, hds, ⟨⟩⟩ := bind_eq_ok.1 hd
      have hvs := Value.wellFormed_array.1 (hv _ rfl)
      exact restores_tupleVariant hlookup (restores_of_fixedItems h hvs (under_eq_ok.1 hds))
    | _ => cases hd

theorem normalVariant_struct {name : String} {fs : List Field} (hnames : (fs.map Field.name).Nodup)
    (h : ∀ f ∈ fs, f.Normal) : NormalVariant name (structVariant name fs) := by
  intro v? d hv hd variants hlookup
  cases v? with
  | none => cases hd
  | some v =>
    cases v with
    | object es =>
      obtain ⟨ds, hds, ⟨⟩⟩ := bind_eq_ok.1 hd
      have hes := (Value.wellFormed_object.1 (hv _ rfl)).2
      exact restores_structVariant hlookup hnames (restores_of_fields hnames h hes (under_eq_ok.1 hds))
    | _ => cases hd

theorem normal_sum {variants : List (String × VariantDecoder)}
    (h : ∀ name decode, variants.lookup name = some decode → NormalVariant name decode) : Normal (sum variants) := by
  have hvariant {name : String} {v? : Option Value} {d : Datum} (hv : ∀ v ∈ v?, Value.WellFormed v)
      (hd : variant variants name v? = .ok d) : Restores (sum variants) d := by
    rw [variant] at hd
    split at hd
    · next decode hlookup => exact h name decode hlookup v? d hv hd variants hlookup
    · cases hd
  intro v d hv hd
  cases v with
  | text name => exact hvariant (fun v h => absurd h (Option.not_mem_none v)) hd
  | object es =>
    obtain _ | ⟨⟨name, v⟩, _ | ⟨e, es⟩⟩ := es
    · cases hd
    · refine hvariant (fun w hw => ?_) hd
      obtain rfl := Option.some.inj hw
      exact (Value.wellFormed_object.1 hv).2 _ List.mem_cons_self
    · cases hd
  | _ => cases hd

/-! ### Anything -/

theorem anyItems_eq_items (index : Nat) (vs : List Value) : anyItems index vs = items any index vs := by
  induction vs generalizing index with
  | nil => rfl
  | cons v vs ih => rw [anyItems, items, ih]

theorem anyEntries_eq_entries (es : List (String × Value)) : anyEntries es = entries text any es := by
  induction es with
  | nil => rfl
  | cons e es ih =>
    obtain ⟨name, v⟩ := e
    rw [anyEntries, entries, ih]
    rfl

theorem keepsKeys_text : KeepsKeys text :=
  fun _ _ h => (Except.ok.inj h).symm

theorem any_array (vs : List Value) : any (.array vs) = sequence any (.array vs) := by
  rw [any, anyItems_eq_items]
  rfl

theorem any_object (es : List (String × Value)) : any (.object es) = map text any (.object es) := by
  rw [any, anyEntries_eq_entries]
  rfl

/-- Floats that are not finite are taken as nothing, which comes back as such. -/
theorem normal_any : Normal any := by
  intro v d hv hd
  induction v using Value.induction generalizing d with
  | scalar v hscalar =>
    cases v with
    | float x =>
      by_cases hfinite : Number.isFinite x = true
      · rw [any, if_pos hfinite] at hd
        obtain rfl := Except.ok.inj hd
        -- a finite float is taken as itself
        refine restores_of_eq rfl ?_
        rw [any, if_pos hfinite]
      · rw [any, if_neg hfinite] at hd
        obtain rfl := Except.ok.inj hd
        exact restores_of_eq rfl rfl
    | blob bs => cases hd
    | array items => exact hscalar.elim
    | object entries => exact hscalar.elim
    | _ =>
      obtain rfl := Except.ok.inj hd
      exact restores_of_eq rfl rfl
  | array items ih =>
    rw [Value.wellFormed_array] at hv
    rw [any_array, sequence] at hd
    simp only [bind_eq_ok] at hd
    obtain ⟨_, ⟨⟩, ds, hds, ⟨⟩⟩ := hd
    have hrestores : Restores (sequence any) (.sequence ds) :=
      restores_sequence (restores_of_items (fun v hmem d => ih v hmem d (hv v hmem)) (items_eq_ok.1 hds))
    intro w hw
    obtain ⟨vs, -, rfl⟩ := Datum.translation_sequence.1 hw
    rw [any_array]
    exact hrestores _ hw
  | object entries ih =>
    rw [Value.wellFormed_object] at hv
    rw [any_object, map] at hd
    obtain ⟨data, hdata, ⟨⟩⟩ := bind_eq_ok.1 hd
    have hrestores : Restores (map text any) (.map data) :=
      restores_of_entries keepsKeys_text hv.1 (fun e he d => ih e he d (hv.2 e he)) hdata
    intro w hw
    obtain ⟨stored, -, rfl⟩ := Datum.translation_map.1 hw
    rw [any_object]
    exact hrestores _ hw

end SqlFormula.Typed.Decoder
