import SqlFormula.Proofs.Typed.Normal
import SqlFormula.Typed.Catalogue

/-!
# Where values are refused

An error of taking a value as typed data has a path, which is put together from the inside while the error is handed out
of structures, maps, sequences and variants. Read from the outside, the path leads to a part that the value has. The same
path leads from the type to the component that belongs there, and the component refuses the part alone for the same reason.

## Main definitions

- `Leads` — a path leads from a value to one of its parts
- `Shape.part?`, `Shape.component?` — the component of a type to which a step leads, and a path
- `Located` — an error is about the part to which its path leads

## Main statements

- `Decoder.fixedItems_eq_error`, `Decoder.entries_eq_error`, `Decoder.fields_eq_error` — the errors of collections are
  those of their parts
- `Shape.locates` — all errors of the decoder of a shape are located
- `Shape.decodeOrDefault_error_located` — so are those of taking NULL as the default
-/

namespace SqlFormula.Typed

/-! ### Parts of values -/

/-- One step leads from a value to a part of it. The parts of a blob are its bytes. -/
inductive PartAt : Segment → Value → Value → Prop
  | item {i : Nat} {vs : List Value} {v : Value} (h : vs[i]? = some v) : PartAt (.item i) (.array vs) v
  | byte {i : Nat} {bs : List UInt8} {b : UInt8} (h : bs[i]? = some b) :
    PartAt (.item i) (.blob bs) (.integer (Int64.ofInt b.toNat))
  | entry {name : String} {es : List (String × Value)} {v : Value} (h : (name, v) ∈ es) :
    PartAt (.field name) (.object es) v

/-- A path leads from a value to one of its parts. -/
inductive Leads : List Segment → Value → Value → Prop
  | here (v : Value) : Leads [] v v
  | step {step : Segment} {path : List Segment} {v w u : Value} (h : PartAt step v w) (hrest : Leads path w u) :
    Leads (step :: path) v u

/-- The items that are taken from a value are its parts. -/
theorem partAt_of_itemsOf {expected : String} {v w : Value} {vs : List Value} {i : Nat}
    (h : Decoder.itemsOf expected v = .ok vs) (hw : vs[i]? = some w) : PartAt (.item i) v w := by
  cases v with
  | array items =>
    obtain rfl := Except.ok.inj h
    exact .item hw
  | blob bs =>
    obtain rfl := Except.ok.inj h
    rw [Decoder.ofBytes, List.getElem?_map, Option.map_eq_some_iff] at hw
    obtain ⟨b, hb, rfl⟩ := hw
    exact .byte hb
  | _ => cases h

/-- Only a date and time is offered as something else, and that is a text. -/
theorem eq_array_of_offered {v : Value} {vs : List Value} (h : Decoder.offered v = .array vs) : v = .array vs := by
  cases v with
  | array items => exact h
  | _ => cases h

theorem eq_object_of_offered {v : Value} {es : List (String × Value)} (h : Decoder.offered v = .object es) :
    v = .object es := by
  cases v with
  | object entries => exact h
  | _ => cases h

/-- A text has no parts. -/
theorem eq_nil_of_leads_text {path : List Segment} {s : String} {w : Value} (h : Leads path (.text s) w) :
    path = [] := by
  cases h with
  | here => rfl
  | step hpart => cases hpart

/-! ### Components of shapes -/

/-- The shape of the data of a variant of a sum, as a shape of its own. -/
def VariantShape.data (sum name : String) : VariantShape → Shape
  | .unit => .unit
  | .wrapped s => s
  | .tuple items => .tuple (.variant (sum ++ "::" ++ name) items.length) items
  | .struct fields => .struct name false false fields

namespace Shape

/-- The component of a shape to which one step leads. To what an option or a nameless field holds there is no step of its
own. The elements of bytes are integers of 8 bits, and all parts of what JSON can say are of that shape. -/
def part? : Shape → Segment → Option Shape
  | .optional s, step => s.part? step
  | .wrapped s, step => s.part? step
  | .sequence s, .item _ => some s
  | .bytes, .item _ => some (.integer ⟨false, 8⟩)
  | .tuple _ items, .item i => items[i]?
  | .map _ s, .field _ => some s
  | .struct _ _ _ fields, .field name => fields.lookup name
  | .any, _ => some .any
  | .sum name variants, .field variant => (variants.lookup variant).map (VariantShape.data name variant)
  | _, _ => none

/-- The component of a shape to which a path leads. -/
def component? (s : Shape) : List Segment → Option Shape
  | [] => some s
  | step :: path => (s.part? step).bind fun t => t.component? path

end Shape

/-! ### Errors at the place of a value -/

theorem under_eq_error {α : Type} {step : Segment} {r : Except DecodeError α} {e : DecodeError} :
    under step r = .error e ↔ ∃ inner, r = .error inner ∧ e = inner.under step := by
  cases r with
  | error inner => simp [under, Except.mapError, eq_comm]
  | ok a => simp [under, Except.mapError]

/-- The only errors are about the value itself. -/
def AtRoot {α : Type} (r : Except DecodeError α) : Prop :=
  ∀ e, r = .error e → e.path = []

section

variable {α β : Type}

@[simp]
theorem atRoot_ok (a : α) : AtRoot (.ok a : Except DecodeError α) :=
  nofun

@[simp]
theorem atRoot_mismatch (expected : String) (v : Value) : AtRoot (mismatch expected v : Except DecodeError α) := by
  rintro e ⟨⟩
  rfl

@[simp]
theorem atRoot_invalid (fault : Invalidity) : AtRoot (invalid fault : Except DecodeError α) := by
  rintro e ⟨⟩
  rfl

theorem atRoot_bind {r : Except DecodeError α} {f : α → Except DecodeError β} (hr : AtRoot r)
    (hf : ∀ a, AtRoot (f a)) : AtRoot (r >>= f) := by
  intro e h
  obtain h | ⟨a, -, h⟩ := bind_eq_error.1 h
  · exact hr e h
  · exact hf a e h

end

namespace Decoder

theorem atRoot_null (expected : String) (v : Value) : AtRoot (null expected v) := by
  rw [null.eq_def]
  split <;> simp

theorem atRoot_boolean (v : Value) : AtRoot (boolean v) := by
  rw [boolean]
  split <;> simp

theorem atRoot_integer (k : IntegerKind) (v : Value) : AtRoot (integer k v) := by
  rw [integer]
  split
  · split <;> simp
  · simp

theorem atRoot_double (v : Value) : AtRoot (double v) := by
  rw [double]
  split <;> simp

theorem atRoot_single (v : Value) : AtRoot (single v) := by
  rw [single]
  split <;> simp

theorem atRoot_char (v : Value) : AtRoot (char v) := by
  rw [char]
  split
  · split <;> simp
  · simp

theorem atRoot_textOf (v : Value) : AtRoot (textOf v) := by
  rw [textOf]
  split
  · simp
  · split <;> simp
  · simp

theorem atRoot_text (v : Value) : AtRoot (text v) :=
  atRoot_bind (atRoot_textOf v) fun _ => atRoot_ok _

theorem atRoot_dateTime (v : Value) : AtRoot (dateTime v) := by
  refine atRoot_bind (atRoot_textOf v) fun s => ?_
  split
  · exact atRoot_ok _
  · exact atRoot_invalid _

theorem atRoot_timestamp (v : Value) : AtRoot (timestamp v) := by
  rw [timestamp]
  split
  · split <;> simp
  · simp

theorem atRoot_itemsOf (expected : String) (v : Value) : AtRoot (itemsOf expected v) := by
  rw [itemsOf.eq_def]
  split <;> simp

end Decoder

/-! ### Errors of collections -/

namespace Decoder

section

variable {α : Type}

/-- Items fail with the error of one of them. -/
theorem items_eq_error {item : Value → Except DecodeError α} {index : Nat} {vs : List Value} {e : DecodeError}
    (h : items item index vs = .error e) :
    ∃ i v inner, vs[i]? = some v ∧ item v = .error inner ∧ e = inner.under (.item (index + i)) := by
  induction vs generalizing index with
  | nil => cases h
  | cons v vs ih =>
    rw [items, bind_eq_error] at h
    obtain h | ⟨d, -, h⟩ := h
    · obtain ⟨inner, hinner, rfl⟩ := under_eq_error.1 h
      exact ⟨0, v, inner, rfl, hinner, rfl⟩
    · obtain h | ⟨ds, -, h⟩ := bind_eq_error.1 h
      · obtain ⟨i, w, inner, hw, hinner, rfl⟩ := ih h
        exact ⟨i + 1, w, inner, hw, hinner, by rw [Nat.add_right_comm, Nat.add_assoc]⟩
      · cases h

end

/-- The items of a tuple fail with the error of one of them, or there are too few. -/
theorem zipItems_eq_error {k : TupleKind} {index : Nat} {ds : List Decoder} {vs : List Value} {e : DecodeError}
    (h : zipItems k index ds vs = .error e) :
    e.path = [] ∨ ∃ (i : Nat) (d : Decoder) (v : Value) (inner : DecodeError),
      ds[i]? = some d ∧ vs[i]? = some v ∧ d v = .error inner ∧ e = inner.under (.item (index + i)) := by
  induction ds generalizing index vs with
  | nil => cases h
  | cons d ds ih =>
    cases vs with
    | nil =>
      obtain rfl := Except.error.inj h
      exact .inl rfl
    | cons v vs =>
      rw [zipItems, bind_eq_error] at h
      obtain h | ⟨datum, -, h⟩ := h
      · obtain ⟨inner, hinner, rfl⟩ := under_eq_error.1 h
        exact .inr ⟨0, d, v, inner, rfl, rfl, hinner, rfl⟩
      · obtain h | ⟨⟨data, rest⟩, -, h⟩ := bind_eq_error.1 h
        · obtain hroot | ⟨i, d', w, inner, hd, hw, hinner, rfl⟩ := ih h
          · exact .inl hroot
          · refine .inr ⟨i + 1, d', w, inner, hd, hw, hinner, ?_⟩
            rw [Nat.add_right_comm, Nat.add_assoc]
        · cases h

theorem fixedItems_eq_error {k : TupleKind} {ds : List Decoder} {vs : List Value} {e : DecodeError}
    (h : fixedItems k ds vs = .error e) :
    e.path = [] ∨ ∃ (i : Nat) (d : Decoder) (v : Value) (inner : DecodeError),
      ds[i]? = some d ∧ vs[i]? = some v ∧ d v = .error inner ∧ e = inner.under (.item i) := by
  rw [fixedItems, bind_eq_error] at h
  obtain h | ⟨⟨data, rest⟩, -, h⟩ := h
  · have herror := zipItems_eq_error h
    simpa only [Nat.zero_add] using herror
  · cases rest with
    | nil => cases h
    | cons v rest => exact .inl (atRoot_invalid _ e h)

/-- The entries of a map fail with the error of a key or of a value. -/
theorem entries_eq_error {key value : Decoder} {es : List (String × Value)} {e : DecodeError}
    (h : entries key value es = .error e) :
    (∃ name, key (.text name) = .error e) ∨
      ∃ name v inner, (name, v) ∈ es ∧ value v = .error inner ∧ e = inner.under (.field name) := by
  induction es with
  | nil => cases h
  | cons entry es ih =>
    obtain ⟨name, v⟩ := entry
    rw [entries, bind_eq_error] at h
    obtain h | ⟨k, -, h⟩ := h
    · exact .inl ⟨name, h⟩
    · obtain h | ⟨d, -, h⟩ := bind_eq_error.1 h
      · obtain ⟨inner, hinner, rfl⟩ := under_eq_error.1 h
        exact .inr ⟨name, v, inner, List.mem_cons_self, hinner, rfl⟩
      · obtain h | ⟨data, -, h⟩ := bind_eq_error.1 h
        · obtain hkey | ⟨name', w, inner, hmem, hinner, rfl⟩ := ih h
          · exact .inl hkey
          · exact .inr ⟨name', w, inner, List.mem_cons_of_mem _ hmem, hinner, rfl⟩
        · cases h

/-- The known fields among entries fail with the error of one of them, or an entry is refused. -/
theorem knownEntries_eq_error {closed : Bool} {fs : List Field} {es : List (String × Value)} {e : DecodeError}
    (h : knownEntries closed fs es = .error e) :
    e.path = [] ∨ ∃ name v f inner, (name, v) ∈ es ∧
      (fs.find? fun f => f.name == name) = some f ∧ f.decode v = .error inner ∧ e = inner.under (.field name) := by
  induction es with
  | nil => cases h
  | cons entry es ih =>
    obtain ⟨name, v⟩ := entry
    have hlater (h : knownEntries closed fs es = .error e) : e.path = [] ∨
        ∃ name' w f inner, (name', w) ∈ (name, v) :: es ∧ (fs.find? fun f => f.name == name') = some f ∧
          f.decode w = .error inner ∧ e = inner.under (.field name') := by
      obtain hroot | ⟨name', w, f, inner, hmem, hrest⟩ := ih h
      · exact .inl hroot
      · exact .inr ⟨name', w, f, inner, List.mem_cons_of_mem _ hmem, hrest⟩
    rw [knownEntries] at h
    split at h
    · next f hfind =>
      obtain h | ⟨d, -, h⟩ := bind_eq_error.1 h
      · obtain ⟨inner, hinner, rfl⟩ := under_eq_error.1 h
        exact .inr ⟨name, v, f, inner, List.mem_cons_self, hfind, hinner, rfl⟩
      · obtain h | ⟨found, -, h⟩ := bind_eq_error.1 h
        · exact hlater h
        · cases h
    · split at h
      · exact .inl (atRoot_invalid _ e h)
      · rw [ignore_eq_ok] at h
        exact hlater h

/-- What stands for a missing field fails for the whole structure. -/
theorem atRoot_complete {found : List (String × Datum)} {fs : List Field} (h : ∀ f ∈ fs, AtRoot f.absent) :
    AtRoot (complete found fs) := by
  induction fs with
  | nil => exact atRoot_ok _
  | cons f fs ih =>
    obtain ⟨hf, hfs⟩ := List.forall_mem_cons.1 h
    have hrest (d : Datum) : AtRoot (do return (f.name, d) :: (← complete found fs)) :=
      atRoot_bind (ih hfs) fun ds => atRoot_ok _
    rw [complete]
    split
    · exact atRoot_bind (atRoot_ok _) hrest
    · exact atRoot_bind hf hrest

/-- A structure fails with the error of one of its fields, or as a whole. -/
theorem fields_eq_error {closed : Bool} {fs : List Field} {es : List (String × Value)} {e : DecodeError}
    (habsent : ∀ f ∈ fs, AtRoot f.absent) (h : fields closed fs es = .error e) :
    e.path = [] ∨ ∃ name v f inner, (name, v) ∈ es ∧
      (fs.find? fun f => f.name == name) = some f ∧ f.decode v = .error inner ∧ e = inner.under (.field name) := by
  rw [fields, bind_eq_error] at h
  obtain h | ⟨found, -, h⟩ := h
  · exact knownEntries_eq_error h
  · exact .inl (atRoot_complete habsent e h)

end Decoder

/-! ### Errors that are located -/

/-- The error of a value for a shape is about a part of the value. If the part is of the wrong kind, the component of the
shape that belongs there refuses it alone, and expects and finds the same. -/
def Located (s : Shape) (v : Value) : DecodeError → Prop
  | .mismatch path expected found => ∃ w, Leads path v w ∧
    ∃ t, s.component? path = some t ∧ t.decode w = .error (.mismatch [] expected found)
  | .invalid path _ => ∃ w, Leads path v w

theorem Located.leads {s : Shape} {v : Value} {e : DecodeError} (h : Located s v e) : ∃ w, Leads e.path v w := by
  cases e with
  | mismatch path expected found =>
    obtain ⟨w, hleads, -⟩ := h
    exact ⟨w, hleads⟩
  | invalid path fault => exact h

/-- An error about the value as a whole is located. -/
theorem located_of_path_eq_nil {s : Shape} {v : Value} {e : DecodeError} (h : s.decode v = .error e)
    (hpath : e.path = []) : Located s v e := by
  cases e with
  | mismatch path expected found =>
    obtain rfl : path = [] := hpath
    exact ⟨v, .here v, s, rfl, h⟩
  | invalid path fault =>
    obtain rfl : path = [] := hpath
    exact ⟨v, .here v⟩

/-- An error that is located in a part is located in the whole. -/
theorem Located.under {s t : Shape} {v w : Value} {step : Segment} {e : DecodeError} (hpart : PartAt step v w)
    (hs : s.part? step = some t) (h : Located t w e) : Located s v (e.under step) := by
  cases e with
  | mismatch path expected found =>
    obtain ⟨u, hleads, component, hcomponent, hdecode⟩ := h
    refine ⟨u, .step hpart hleads, component, ?_, hdecode⟩
    rw [Shape.component?, hs, Option.bind_some, hcomponent]
  | invalid path fault =>
    obtain ⟨u, hleads⟩ := h
    exact ⟨u, .step hpart hleads⟩

/-- Between shapes with the same components, nothing changes but which of them refuses the value as a whole. -/
theorem Located.of_part?_eq {s t : Shape} {v : Value} {e : DecodeError} (hs : ∀ step, s.part? step = t.part? step)
    (hdecode : s.decode v = .error e) (h : Located t v e) : Located s v e := by
  cases e with
  | mismatch path expected found =>
    cases path with
    | nil => exact located_of_path_eq_nil hdecode rfl
    | cons step path =>
      obtain ⟨w, hleads, component, hcomponent, hw⟩ := h
      refine ⟨w, hleads, component, ?_, hw⟩
      rw [Shape.component?, hs]
      exact hcomponent
  | invalid path fault => exact h

namespace Shape

/-- All errors of the decoder of a shape are located. -/
def Locates (s : Shape) : Prop :=
  ∀ v e, s.decode v = .error e → Located s v e

theorem locates_of_atRoot {s : Shape} (h : ∀ v, AtRoot (s.decode v)) : s.Locates :=
  fun v e he => located_of_path_eq_nil he (h v e he)

theorem locates_optional {s : Shape} (h : s.Locates) : (optional s).Locates := by
  intro v e he
  have hparts (step : Segment) : (optional s).part? step = s.part? step := by
    rw [part?]
  by_cases hnull : v.isNull = true
  · cases (if_pos hnull).symm.trans he
  · have hdecode := map_eq_error.1 ((if_neg hnull).symm.trans he)
    exact (h v e hdecode).of_part?_eq hparts he

theorem locates_wrapped {s : Shape} (h : s.Locates) : (wrapped s).Locates := by
  intro v e he
  have hparts (step : Segment) : (wrapped s).part? step = s.part? step := by
    rw [part?]
  exact (h v e (map_eq_error.1 he)).of_part?_eq hparts he

theorem locates_sequence {s : Shape} (h : s.Locates) : (sequence s).Locates := by
  intro v e he
  obtain hitems | ⟨vs, hvs, hdecode⟩ := bind_eq_error.1 he
  · exact located_of_path_eq_nil he (Decoder.atRoot_itemsOf _ v e hitems)
  · obtain hdecode | ⟨ds, -, hdecode⟩ := bind_eq_error.1 hdecode
    · obtain ⟨i, w, inner, hw, hinner, rfl⟩ := Decoder.items_eq_error hdecode
      rw [Nat.zero_add]
      exact (h w inner hinner).under (partAt_of_itemsOf hvs hw) rfl
    · cases hdecode

/-- An element of bytes is refused as an integer of 8 bits is. -/
theorem decode_of_byte_eq_error {v : Value} {e : DecodeError} (h : Decoder.byte v = .error e) :
    (integer ⟨false, 8⟩).decode v = .error e := by
  rw [Decoder.byte] at h
  rw [decode, Decoder.integer]
  split at h
  · split at h
    · cases h
    · next hholds =>
      obtain rfl := Except.error.inj h
      exact if_neg hholds
  · obtain rfl := Except.error.inj h
    rfl

theorem locates_integer (k : IntegerKind) : (integer k).Locates :=
  locates_of_atRoot (Decoder.atRoot_integer k)

theorem locates_bytes : bytes.Locates := by
  intro v e he
  have hdecode : Decoder.bytes v = .error e := he
  rw [Decoder.bytes] at hdecode
  split at hdecode
  · cases hdecode
  · cases hdecode
  · next vs hoffered =>
    obtain hdecode | ⟨bs, -, hdecode⟩ := bind_eq_error.1 hdecode
    · obtain ⟨i, w, inner, hw, hinner, rfl⟩ := Decoder.items_eq_error hdecode
      rw [Nat.zero_add]
      exact (locates_integer _ w inner (decode_of_byte_eq_error hinner)).under (eq_array_of_offered hoffered ▸ .item hw) rfl
    · cases hdecode
  · exact located_of_path_eq_nil he (atRoot_mismatch _ _ e hdecode)

theorem itemDecoders_eq_map (items : List Shape) : itemDecoders items = items.map decode := by
  induction items with
  | nil => rfl
  | cons s ss ih => rw [itemDecoders, List.map_cons, ih]

theorem locates_tuple {k : TupleKind} {items : List Shape} (h : ∀ s ∈ items, s.Locates) : (tuple k items).Locates := by
  intro v e he
  obtain hitems | ⟨vs, hvs, hdecode⟩ := bind_eq_error.1 he
  · exact located_of_path_eq_nil he (Decoder.atRoot_itemsOf _ v e hitems)
  · obtain hdecode | ⟨ds, -, hdecode⟩ := bind_eq_error.1 hdecode
    · obtain hroot | ⟨i, d, w, inner, hd, hw, hinner, rfl⟩ := Decoder.fixedItems_eq_error hdecode
      · exact located_of_path_eq_nil he hroot
      · rw [itemDecoders_eq_map, List.getElem?_map, Option.map_eq_some_iff] at hd
        obtain ⟨s, hs, rfl⟩ := hd
        exact (h s (List.mem_of_getElem? hs) w inner hinner).under (partAt_of_itemsOf hvs hw) hs
    · cases hdecode

/-- The keys of a map are texts, which have no parts. -/
theorem path_eq_nil_of_key {s : Shape} (h : s.Locates) {name : String} {e : DecodeError}
    (he : s.decode (.text name) = .error e) : e.path = [] := by
  obtain ⟨w, hleads⟩ := (h _ e he).leads
  exact eq_nil_of_leads_text hleads

theorem locates_map {key value : Shape} (hkey : key.Locates) (hvalue : value.Locates) : (map key value).Locates := by
  intro v e he
  have hdecode : Decoder.map key.decode value.decode v = .error e := he
  rw [Decoder.map] at hdecode
  split at hdecode
  · next es hoffered =>
    obtain hdecode | ⟨data, -, hdecode⟩ := bind_eq_error.1 hdecode
    · obtain ⟨name, hname⟩ | ⟨name, w, inner, hmem, hinner, rfl⟩ := Decoder.entries_eq_error hdecode
      · exact located_of_path_eq_nil he (path_eq_nil_of_key hkey hname)
      · exact (hvalue w inner hinner).under (eq_object_of_offered hoffered ▸ .entry hmem) rfl
    · cases hdecode
  · exact located_of_path_eq_nil he (atRoot_mismatch _ _ e hdecode)

theorem atRoot_absent (name : String) (defaults : Bool) (s : Shape) : AtRoot (absent name defaults s) := by
  rw [absent]
  split
  · exact atRoot_ok _
  · split <;> simp

theorem atRoot_absent_of_mem {defaults : Bool} {fields : List (String × Shape)} :
    ∀ f ∈ fieldDecoders defaults fields, AtRoot f.absent := by
  induction fields with
  | nil => exact List.forall_mem_nil _
  | cons f rest ih => exact List.forall_mem_cons.2 ⟨atRoot_absent f.1 defaults f.2, ih⟩

theorem find?_fieldDecoders (defaults : Bool) (fields : List (String × Shape)) (name : String) :
    ((fieldDecoders defaults fields).find? fun f => f.name == name) =
      (fields.lookup name).map fun s => ⟨name, s.decode, absent name defaults s⟩ := by
  induction fields with
  | nil => rfl
  | cons f rest ih =>
    obtain ⟨first, s⟩ := f
    rw [fieldDecoders, List.find?_cons, List.lookup_cons]
    by_cases heq : first = name
    · simp [heq]
    · simp [beq_eq_false_iff_ne.2 heq, beq_eq_false_iff_ne.2 (Ne.symm heq), ih]

theorem locates_struct {name : String} {defaults closed : Bool} {fields : List (String × Shape)}
    (h : ∀ field s, fields.lookup field = some s → s.Locates) : (struct name defaults closed fields).Locates := by
  intro v e he
  have hfields {es : List (String × Value)}
      (hparts : ∀ field w, (field, w) ∈ es → PartAt (.field field) v w)
      (hdecode : Decoder.fields closed (fieldDecoders defaults fields) es = .error e) :
      Located (struct name defaults closed fields) v e := by
    obtain hroot | ⟨field, w, f, inner, hmem, hfind, hinner, rfl⟩ :=
      Decoder.fields_eq_error atRoot_absent_of_mem hdecode
    · exact located_of_path_eq_nil he hroot
    · rw [find?_fieldDecoders, Option.map_eq_some_iff] at hfind
      obtain ⟨s, hs, rfl⟩ := hfind
      exact (h field s hs w inner hinner).under (hparts field w hmem) hs
  cases v with
  | object es =>
    obtain hdecode | ⟨ds, -, hdecode⟩ := bind_eq_error.1 he
    · exact hfields (fun field w => .entry) hdecode
    · cases hdecode
  | null =>
    obtain hdecode | ⟨ds, -, hdecode⟩ := bind_eq_error.1 he
    · exact hfields (fun field w hmem => absurd hmem List.not_mem_nil) hdecode
    · cases hdecode
  | _ => exact located_of_path_eq_nil he (atRoot_mismatch _ _ e he)

theorem lookup_variantDecoders (sum : String) (variants : List (String × VariantShape)) (name : String) :
    (variantDecoders sum variants).lookup name = (variants.lookup name).map (variantDecoder sum name) := by
  induction variants with
  | nil => rfl
  | cons f rest ih =>
    obtain ⟨first, s⟩ := f
    rw [variantDecoders, List.lookup_cons, List.lookup_cons]
    by_cases heq : name = first
    · simp [heq]
    · simp [beq_eq_false_iff_ne.2 heq, ih]

/-- What comes with the name of a variant is refused as the data of the variant, or not taken as such at all. -/
theorem variantDecoder_eq_error {sum name : String} {s : VariantShape} {v : Value} {e : DecodeError}
    (h : variantDecoder sum name s (some v) = .error e) :
    e.path = [] ∨ ∃ inner, (s.data sum name).decode v = .error inner ∧ e = inner.under (.field name) := by
  cases s with
  | unit =>
    cases v with
    | null => cases h
    | _ => exact .inl (atRoot_mismatch _ _ e h)
  | wrapped s =>
    obtain h | ⟨d, -, h⟩ := bind_eq_error.1 h
    · exact .inr (under_eq_error.1 h)
    · cases h
  | tuple items =>
    cases v with
    | array vs =>
      obtain h | ⟨ds, -, h⟩ := bind_eq_error.1 h
      · obtain ⟨inner, hinner, rfl⟩ := under_eq_error.1 h
        refine .inr ⟨inner, ?_, rfl⟩
        -- the tuple is told in errors by the number of its items, which is that of its decoders
        rw [itemDecoders_eq_map, List.length_map, ← itemDecoders_eq_map] at hinner
        exact bind_eq_error.2 (.inr ⟨vs, rfl, bind_eq_error.2 (.inl hinner)⟩)
      · cases h
    | _ => exact .inl (atRoot_mismatch _ _ e h)
  | struct fields =>
    cases v with
    | object es =>
      obtain h | ⟨ds, -, h⟩ := bind_eq_error.1 h
      · obtain ⟨inner, hinner, rfl⟩ := under_eq_error.1 h
        exact .inr ⟨inner, bind_eq_error.2 (.inl hinner), rfl⟩
      · cases h
    | _ => exact .inl (atRoot_mismatch _ _ e h)

/-- A name without data is refused itself. -/
theorem path_of_variant_none {sum variant : String} {variants : List (String × VariantShape)} {e : DecodeError}
    (h : Decoder.variant (variantDecoders sum variants) variant none = .error e) : e.path = [] := by
  rw [Decoder.variant, lookup_variantDecoders] at h
  cases hs : variants.lookup variant with
  | none =>
    rw [hs] at h
    exact atRoot_invalid _ e h
  | some s =>
    rw [hs] at h
    cases s with
    | unit => cases h
    | _ =>
      obtain rfl := Except.error.inj h
      rfl

/-- A name with data is refused itself, or the data is refused as that of the variant. -/
theorem variant_some_eq_error {sum variant : String} {variants : List (String × VariantShape)} {v : Value}
    {e : DecodeError} (h : Decoder.variant (variantDecoders sum variants) variant (some v) = .error e) :
    e.path = [] ∨ ∃ s inner, variants.lookup variant = some s ∧ (s.data sum variant).decode v = .error inner ∧
      e = inner.under (.field variant) := by
  rw [Decoder.variant, lookup_variantDecoders] at h
  cases hs : variants.lookup variant with
  | none =>
    rw [hs] at h
    exact .inl (atRoot_invalid _ e h)
  | some s =>
    rw [hs] at h
    obtain hroot | ⟨inner, hinner, he⟩ := variantDecoder_eq_error h
    · exact .inl hroot
    · exact .inr ⟨s, inner, rfl, hinner, he⟩

theorem locates_sum {name : String} {variants : List (String × VariantShape)}
    (h : ∀ variant s, variants.lookup variant = some s → (s.data name variant).Locates) :
    (sum name variants).Locates := by
  intro v e he
  cases v with
  | text variant => exact located_of_path_eq_nil he (path_of_variant_none he)
  | object es =>
    obtain _ | ⟨⟨variant, w⟩, _ | ⟨second, es⟩⟩ := es
    · exact located_of_path_eq_nil he (atRoot_mismatch _ _ e he)
    · obtain hroot | ⟨s, inner, hs, hinner, rfl⟩ := variant_some_eq_error he
      · exact located_of_path_eq_nil he hroot
      · refine (h variant s hs w inner hinner).under (.entry List.mem_cons_self) ?_
        rw [part?, hs, Option.map_some]
    · exact located_of_path_eq_nil he (atRoot_mismatch _ _ e he)
  | _ => exact located_of_path_eq_nil he (atRoot_mismatch _ _ e he)

theorem locates_any : any.Locates := by
  intro v
  induction v using Value.induction with
  | scalar v hv =>
    intro e he
    cases v with
    | array items => exact hv.elim
    | object entries => exact hv.elim
    | blob bs => exact located_of_path_eq_nil he (atRoot_mismatch _ _ e he)
    | _ => cases he
  | array items ih =>
    intro e he
    have hdecode : Decoder.any (.array items) = .error e := he
    rw [Decoder.any, Decoder.anyItems_eq_items, bind_eq_error] at hdecode
    obtain hdecode | ⟨ds, -, hdecode⟩ := hdecode
    · obtain ⟨i, w, inner, hw, hinner, rfl⟩ := Decoder.items_eq_error hdecode
      rw [Nat.zero_add]
      exact (ih w (List.mem_of_getElem? hw) inner hinner).under (.item hw) rfl
    · cases hdecode
  | object entries ih =>
    intro e he
    have hdecode : Decoder.any (.object entries) = .error e := he
    rw [Decoder.any, Decoder.anyEntries_eq_entries, bind_eq_error] at hdecode
    obtain hdecode | ⟨ds, -, hdecode⟩ := hdecode
    · obtain ⟨name, hname⟩ | ⟨name, w, inner, hmem, hinner, rfl⟩ := Decoder.entries_eq_error hdecode
      · cases hname
      · exact (ih _ hmem inner hinner).under (.entry hmem) rfl
    · cases hdecode

mutual

/-- **All errors of the decoder of a shape are located.** -/
theorem locates (s : Shape) : s.Locates := by
  cases s with
  | unit => exact locates_of_atRoot (Decoder.atRoot_null _)
  | boolean => exact locates_of_atRoot Decoder.atRoot_boolean
  | integer k => exact locates_integer k
  | single => exact locates_of_atRoot Decoder.atRoot_single
  | double => exact locates_of_atRoot Decoder.atRoot_double
  | char => exact locates_of_atRoot Decoder.atRoot_char
  | text => exact locates_of_atRoot Decoder.atRoot_text
  | bytes => exact locates_bytes
  | dateTime => exact locates_of_atRoot Decoder.atRoot_dateTime
  | timestamp => exact locates_of_atRoot Decoder.atRoot_timestamp
  | any => exact locates_any
  | optional s => exact locates_optional (locates s)
  | wrapped s => exact locates_wrapped (locates s)
  | sequence s => exact locates_sequence (locates s)
  | tuple k items => exact locates_tuple (locates_items items)
  | map key value => exact locates_map (locates key) (locates value)
  | unitStruct name => exact locates_of_atRoot (Decoder.atRoot_null _)
  | struct name defaults closed fields => exact locates_struct (locates_fields fields)
  | sum name variants => exact locates_sum (locates_variants name variants)

theorem locates_items (items : List Shape) : ∀ s ∈ items, s.Locates := by
  cases items with
  | nil => exact List.forall_mem_nil _
  | cons s ss => exact List.forall_mem_cons.2 ⟨locates s, locates_items ss⟩

theorem locates_fields (fields : List (String × Shape)) (field : String) (s : Shape)
    (h : fields.lookup field = some s) : s.Locates := by
  cases fields with
  | nil => cases h
  | cons f rest =>
    obtain ⟨name, t⟩ := f
    rw [List.lookup_cons] at h
    split at h
    · obtain rfl := Option.some.inj h
      exact locates t
    · exact locates_fields rest field s h

theorem locates_data (sum name : String) (s : VariantShape) : (s.data sum name).Locates := by
  cases s with
  | unit => exact locates_of_atRoot (Decoder.atRoot_null _)
  | wrapped s => exact locates s
  | tuple items => exact locates_tuple (locates_items items)
  | struct fields => exact locates_struct (locates_fields fields)

theorem locates_variants (sum : String) (variants : List (String × VariantShape)) (name : String) (s : VariantShape)
    (h : variants.lookup name = some s) : (s.data sum name).Locates := by
  cases variants with
  | nil => cases h
  | cons f rest =>
    obtain ⟨first, t⟩ := f
    rw [List.lookup_cons] at h
    split at h
    · obtain rfl := Option.some.inj h
      exact locates_data sum name t
    · exact locates_variants sum rest name s h

end

/-- **An error leads to the part that is refused.** Whatever a type refuses, the path of the error leads to a part that the
value has. If something else was expected there, the component of the type to which the same path leads refuses the part
alone: it expects and finds the same, at the part itself. -/
theorem decodeOrDefault_error_located {s : Shape} {v : Value} {e : DecodeError} (h : s.decodeOrDefault v = .error e) :
    ∃ w, Leads e.path v w ∧ ∀ path expected found, e = .mismatch path expected found →
      ∃ t, s.component? path = some t ∧ t.decode w = .error (.mismatch [] expected found) := by
  have hdecode : s.decode v = .error e := by
    rw [decodeOrDefault] at h
    split at h
    · cases h
    · exact h
  have hlocated := locates s v e hdecode
  cases e with
  | mismatch path expected found =>
    obtain ⟨w, hleads, hcomponent⟩ := hlocated
    refine ⟨w, hleads, ?_⟩
    rintro _ _ _ ⟨⟩
    exact hcomponent
  | invalid path fault =>
    obtain ⟨w, hleads⟩ := hlocated
    exact ⟨w, hleads, nofun⟩

/-- The second score in the history of a person is a text. The path of the error leads to it through a structure, a
sequence and a variant, and a float is refused there for the same reason. -/
theorem person_score_located :
    Catalogue.person.decodeOrDefault (.object [("history", .array [.text "Active",
        .object [("Scored", .array [.integer 7, .text "high"])]])]) =
      .error (.mismatch [.field "history", .item 1, .field "Scored", .item 1] "f64" (.text "high")) ∧
    ∃ w, Leads [.field "history", .item 1, .field "Scored", .item 1] (.object [("history", .array [.text "Active",
        .object [("Scored", .array [.integer 7, .text "high"])]])]) w ∧
      ∃ t, Catalogue.person.component? [.field "history", .item 1, .field "Scored", .item 1] = some t ∧
        t.decode w = .error (.mismatch [] "f64" (.text "high")) := by
  have h : Catalogue.person.decodeOrDefault (.object [("history", .array [.text "Active",
        .object [("Scored", .array [.integer 7, .text "high"])]])]) =
      .error (.mismatch [.field "history", .item 1, .field "Scored", .item 1] "f64" (.text "high")) := rfl
  obtain ⟨w, hleads, hcomponent⟩ := decodeOrDefault_error_located h
  exact ⟨h, w, hleads, hcomponent _ _ _ rfl⟩

end Shape

end SqlFormula.Typed
