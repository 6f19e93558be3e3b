import SqlFormula.Proofs.Typed.Refusals

/-!
# Structures with defaults

Where all fields have defaults, an object is taken as a structure entry by entry: a field is what its own entry says, or its
default if there is none. It fails only if an entry of a field is refused, with the error of the first one. Entries that
belong to no field make no difference, whatever they hold.

## Main definitions

- `Shape.outcomes` — the entries of fields, with what becomes of them
- `Shape.FirstRefused` — the first entry that is refused
- `Shape.Refused`, `Shape.Filled` — an entry of a field that is refused, and a field of the result

## Main statements

- `Shape.decodeOrDefault_object` — the outcomes of the entries of fields decide
- `Shape.gather_eq_error_iff` — the error is that of the first entry that is refused
- `Shape.decodeOrDefault_of_defaults` — which objects are taken, and as what
-/

namespace SqlFormula.Typed.Shape

variable {fields : List (String × Shape)} {es es' : List (String × Value)}

/-! ### What becomes of entries -/

/-- The entries of the fields of a structure, each with its data or the error with which it is refused. -/
def outcomes (fields : List (String × Shape)) (es : List (String × Value)) : List (String × Except DecodeError Datum) :=
  es.filterMap fun e => (fields.lookup e.1).map fun s => (e.1, s.decode e.2)

theorem outcomes_cons (name : String) (v : Value) : outcomes fields ((name, v) :: es) =
    match fields.lookup name with
    | some s => (name, s.decode v) :: outcomes fields es
    | none => outcomes fields es := by
  rw [outcomes, List.filterMap_cons]
  cases fields.lookup name <;> rfl

/-- The data of all entries, or the error of the first that is refused. -/
def gather : List (String × Except DecodeError Datum) → Except DecodeError (List (String × Datum))
  | [] => .ok []
  | (name, r) :: rest => do
    let d ← under (.field name) r
    return (name, d) :: (← gather rest)

theorem knownEntries_eq_gather (fields : List (String × Shape)) (es : List (String × Value)) :
    Decoder.knownEntries false (fieldDecoders true fields) es = gather (outcomes fields es) := by
  induction es with
  | nil => rfl
  | cons e es ih =>
    obtain ⟨name, v⟩ := e
    have hfind := find?_fieldDecoders true fields name
    rw [outcomes_cons]
    cases hs : fields.lookup name with
    | none =>
      -- whatever such an entry holds, it is passed over without an error
      rw [hs] at hfind
      rw [Decoder.knownEntries_cons_of_none hfind, ih]
    | some s =>
      rw [hs] at hfind
      rw [Decoder.knownEntries, hfind, ih]
      rfl

theorem find?_outcomes (key : String) :
    Entries.find? key (outcomes fields es) = (fields.lookup key).bind fun s => (Entries.find? key es).map s.decode := by
  induction es with
  | nil =>
    cases fields.lookup key <;> rfl
  | cons e es ih =>
    obtain ⟨name, v⟩ := e
    rw [outcomes_cons, Entries.find?_cons]
    by_cases heq : key = name
    · subst heq
      rw [if_pos rfl]
      cases hs : fields.lookup key with
      | none =>
        simp only
        rw [ih, hs]
        rfl
      | some s =>
        simp only
        rw [Entries.find?_cons, if_pos rfl]
        rfl
    · rw [if_neg heq, ← ih]
      cases hs : fields.lookup name with
      | none => rfl
      | some s =>
        simp only
        rw [Entries.find?_cons, if_neg heq]

theorem mem_keys_of_mem_outcomes {e : String × Except DecodeError Datum} (h : e ∈ outcomes fields es) :
    ∃ v, (e.1, v) ∈ es := by
  obtain ⟨⟨name, v⟩, hmem, hs⟩ := List.mem_filterMap.1 h
  obtain ⟨s, -, rfl⟩ := Option.map_eq_some_iff.1 hs
  exact ⟨v, hmem⟩

theorem sorted_outcomes (h : Entries.Sorted es) : Entries.Sorted (outcomes fields es) := by
  induction es with
  | nil => exact List.Pairwise.nil
  | cons e es ih =>
    obtain ⟨name, v⟩ := e
    obtain ⟨hlt, hrest⟩ := Entries.sorted_cons.1 h
    rw [outcomes_cons]
    cases fields.lookup name with
    | none => exact ih hrest
    | some s =>
      refine Entries.sorted_cons.2 ⟨fun e he => ?_, ih hrest⟩
      obtain ⟨w, hw⟩ := mem_keys_of_mem_outcomes he
      exact hlt _ hw

/-! ### All entries together -/

theorem find?_of_gather {rs : List (String × Except DecodeError Datum)} {found : List (String × Datum)}
    (h : gather rs = .ok found) (key : String) : Entries.find? key rs = (found.lookup key).map Except.ok := by
  induction rs generalizing found with
  | nil =>
    obtain rfl := Except.ok.inj h
    rfl
  | cons r rs ih =>
    obtain ⟨name, r⟩ := r
    rw [gather] at h
    simp only [bind_eq_ok, under_eq_ok] at h
    obtain ⟨d, rfl, rest, hrest, ⟨⟩⟩ := h
    show _ = (Entries.find? key ((name, d) :: rest)).map Except.ok
    rw [Entries.find?_cons, Entries.find?_cons]
    split
    · rfl
    · exact ih hrest

/-- The first entry that is refused, in the order of keys. -/
def FirstRefused (rs : List (String × Except DecodeError Datum)) (key : String) (inner : DecodeError) : Prop :=
  Entries.find? key rs = some (.error inner) ∧ ∀ key' < key, ∀ inner', Entries.find? key' rs ≠ some (.error inner')

section

variable {rs : List (String × Except DecodeError Datum)} {name key : String} {inner inner' : DecodeError} {d : Datum}

/-- Nothing comes before the first entry. -/
theorem firstRefused_cons_error (h : Entries.Sorted ((name, .error inner) :: rs)) :
    FirstRefused ((name, .error inner) :: rs) key inner' ↔ key = name ∧ inner' = inner := by
  have hself : Entries.find? name ((name, .error inner) :: rs) = some (.error inner) := by
    rw [Entries.find?_cons, if_pos rfl]
  have hlt := (Entries.sorted_cons.1 h).1
  constructor
  · rintro ⟨hfind, hfirst⟩
    by_cases heq : key = name
    · rw [heq, hself] at hfind
      obtain ⟨⟩ := hfind
      exact ⟨heq, rfl⟩
    · rw [Entries.find?_cons, if_neg heq] at hfind
      exact absurd hself (hfirst name (hlt _ (Entries.mem_of_find? hfind)) inner)
  · rintro ⟨rfl, rfl⟩
    refine ⟨hself, ?_⟩
    intro key' hkey inner' hfind
    have hnone := Entries.find?_of_forall_gt fun e he => String.lt_trans hkey (hlt e he)
    rw [Entries.find?_cons, if_neg (ne_of_lt hkey), hnone] at hfind
    cases hfind

/-- Keys do not occur twice, so what is refused stands behind an entry that is taken. -/
theorem firstRefused_cons_ok (h : Entries.Sorted ((name, .ok d) :: rs)) :
    FirstRefused ((name, .ok d) :: rs) key inner ↔ FirstRefused rs key inner := by
  have hlt := (Entries.sorted_cons.1 h).1
  have hfind (key : String) (inner : DecodeError) : Entries.find? key ((name, .ok d) :: rs) = some (.error inner) ↔
      Entries.find? key rs = some (.error inner) := by
    rw [Entries.find?_cons]
    by_cases heq : key = name
    · rw [if_pos heq]
      refine iff_of_false nofun fun hrs => ?_
      exact String.lt_irrefl _ (heq ▸ hlt _ (Entries.mem_of_find? hrs))
    · rw [if_neg heq]
  simp only [FirstRefused, Ne, hfind]

/-- The error is that of the first entry that is refused. -/
theorem gather_eq_error_iff (h : Entries.Sorted rs) {e : DecodeError} :
    gather rs = .error e ↔ ∃ key inner, FirstRefused rs key inner ∧ e = inner.under (.field key) := by
  induction rs with
  | nil => exact ⟨nofun, fun ⟨key, inner, hfirst, _⟩ => nomatch hfirst.1⟩
  | cons r rs ih =>
    obtain ⟨name, r⟩ := r
    rw [gather]
    cases r with
    | error inner =>
      simp only [firstRefused_cons_error h]
      constructor
      · intro herror
        exact ⟨name, inner, ⟨rfl, rfl⟩, (Except.error.inj herror).symm⟩
      · rintro ⟨_, _, ⟨rfl, rfl⟩, rfl⟩
        rfl
    | ok d =>
      simp only [firstRefused_cons_ok h]
      rw [← ih (Entries.sorted_cons.1 h).2, bind_eq_error]
      constructor
      · rintro (⟨⟨⟩⟩ | ⟨_, ⟨⟩, herror⟩)
        obtain herror | ⟨found, -, ⟨⟩⟩ := bind_eq_error.1 herror
        exact herror
      · exact fun herror => .inr ⟨d, rfl, bind_eq_error.2 (.inl herror)⟩

end

theorem complete_eq (found : List (String × Datum)) (fields : List (String × Shape)) :
    Decoder.complete found (fieldDecoders true fields) =
      .ok (fields.map fun f => (f.1, (found.lookup f.1).getD f.2.default)) := by
  induction fields with
  | nil => rfl
  | cons f fields ih =>
    obtain ⟨name, s⟩ := f
    rw [fieldDecoders, Decoder.complete, ih, List.map_cons]
    cases found.lookup name <;> rfl

/-- The outcomes of the entries of fields decide. -/
theorem decodeOrDefault_object (name : String) (fields : List (String × Shape)) (es : List (String × Value)) :
    (struct name true false fields).decodeOrDefault (.object es) = (gather (outcomes fields es)).map fun found =>
      .struct (fields.map fun f => (f.1, (found.lookup f.1).getD f.2.default)) := by
  show (do return Datum.struct (← Decoder.fields false (fieldDecoders true fields) es) : Except DecodeError Datum) = _
  rw [Decoder.fields, knownEntries_eq_gather]
  cases gather (outcomes fields es) with
  | error e => rfl
  | ok found =>
    show (do return Datum.struct (← Decoder.complete found (fieldDecoders true fields)) : Except DecodeError Datum) = _
    rw [complete_eq]
    rfl

/-! ### Objects as structures -/

/-- The entry of a field is refused. -/
def Refused (fields : List (String × Shape)) (es : List (String × Value)) (key : String) (inner : DecodeError) : Prop :=
  ∃ s v, fields.lookup key = some s ∧ Entries.find? key es = some v ∧ s.decode v = .error inner

theorem refused_iff {key : String} {inner : DecodeError} :
    Refused fields es key inner ↔ Entries.find? key (outcomes fields es) = some (.error inner) := by
  rw [find?_outcomes, Refused]
  simp only [Option.bind_eq_some_iff, Option.map_eq_some_iff]
  exact ⟨fun ⟨s, v, hs, hv, he⟩ => ⟨s, hs, v, hv, he⟩, fun ⟨s, hs, v, hv, he⟩ => ⟨s, v, hs, hv, he⟩⟩

/-- A field of the result is what its own entry says, or its default if there is none. -/
def Filled (es : List (String × Value)) (f : String × Shape) (e : String × Datum) : Prop :=
  e.1 = f.1 ∧
    match Entries.find? f.1 es with
    | some v => f.2.decode v = .ok e.2
    | none => e.2 = f.2.default

theorem filled_of_gather {found : List (String × Datum)} (hnames : (fields.map Prod.fst).Nodup)
    (h : gather (outcomes fields es) = .ok found) {f : String × Shape} (hf : f ∈ fields) :
    Filled es f (f.1, (found.lookup f.1).getD f.2.default) := by
  have hlookup : fields.lookup f.1 = some f.2 := Entries.find?_of_mem hnames hf
  have hfind := find?_of_gather h f.1
  rw [find?_outcomes, hlookup, Option.bind_some] at hfind
  refine ⟨rfl, ?_⟩
  cases hv : Entries.find? f.1 es with
  | none =>
    rw [hv] at hfind
    rw [Option.map_eq_none_iff.1 hfind.symm]
    rfl
  | some v =>
    rw [hv, Option.map_some] at hfind
    obtain ⟨d, hd, hdecode⟩ := Option.map_eq_some_iff.1 hfind.symm
    rw [hd]
    exact hdecode.symm

/-- What becomes of the entries depends on those of fields only. -/
theorem outcomes_congr (hes : Entries.Sorted es) (hes' : Entries.Sorted es')
    (h : ∀ f ∈ fields, (Entries.find? f.1 es).map f.2.decode = (Entries.find? f.1 es').map f.2.decode) :
    outcomes fields es = outcomes fields es' := by
  apply Entries.eq_of_sorted (sorted_outcomes hes) (sorted_outcomes hes')
  intro key
  rw [find?_outcomes, find?_outcomes]
  cases hs : fields.lookup key with
  | none => rfl
  | some s => exact h (key, s) (Entries.mem_of_find? hs)

/-- **An object is taken as a structure with defaults field by field.** It fails exactly if an entry of a field is refused,
with the error of the first one under its key. Else every field is what its own entry says, or its default. Two objects have
the same result if the entries of fields are taken alike in both, whatever else they hold. -/
theorem decodeOrDefault_of_defaults (name : String) (hnames : (fields.map Prod.fst).Nodup) (hes : Entries.Sorted es)
    (hes' : Entries.Sorted es') :
    (∀ e, (struct name true false fields).decodeOrDefault (.object es) = .error e ↔
      ∃ key inner, Refused fields es key inner ∧ e = inner.under (.field key) ∧
        ∀ key' < key, ∀ inner', ¬Refused fields es key' inner') ∧
    (∀ d, (struct name true false fields).decodeOrDefault (.object es) = .ok d →
      ∃ ds, d = .struct ds ∧ List.Forall₂ (Filled es) fields ds) ∧
    ((∀ f ∈ fields, (Entries.find? f.1 es).map f.2.decode = (Entries.find? f.1 es').map f.2.decode) →
      (struct name true false fields).decodeOrDefault (.object es) =
        (struct name true false fields).decodeOrDefault (.object es')) := by
  simp only [decodeOrDefault_object, refused_iff, map_eq_error]
  refine ⟨fun e => ?_, fun d hd => ?_, fun h => ?_⟩
  · rw [gather_eq_error_iff (sorted_outcomes hes)]
    exact exists₂_congr fun key inner => and_right_comm.trans and_assoc
  · obtain ⟨found, hfound, rfl⟩ := map_eq_ok.1 hd
    refine ⟨_, rfl, ?_⟩
    rw [List.forall₂_map_right_iff, List.forall₂_same]
    exact fun f hf => filled_of_gather hnames hfound hf
  · rw [outcomes_congr hes hes' h]

/-- A person with an age that is none, and with entries before and after it, and in the address, that are no fields. -/
def stranger : List (String × Value) :=
  [("address", .object [("city", .text "Ulm"), ("planet", .array [.blob [1, 2], .null])]), ("admirers", .integer 3),
    ("age", .text "old"), ("mood", .object [("level", .float 0.5)]), ("name", .integer 7)]

/-- The same person without these entries. -/
def strangerPlain : List (String × Value) :=
  [("address", .object [("city", .text "Ulm")]), ("age", .text "old"), ("name", .integer 7)]

theorem person_of_defaults :
    Entries.Sorted stranger ∧ Entries.Sorted strangerPlain ∧
      Catalogue.person.decodeOrDefault (.object strangerPlain) =
        .error (.mismatch [.field "age"] "i32" (.text "old")) ∧
      Catalogue.person.decodeOrDefault (.object stranger) =
        .error (.mismatch [.field "age"] "i32" (.text "old")) := by
  have hsorted : Entries.Sorted stranger := by decide
  have hsorted' : Entries.Sorted strangerPlain := by decide
  have herror : Catalogue.person.decodeOrDefault (.object strangerPlain) =
      .error (.mismatch [.field "age"] "i32" (.text "old")) := rfl
  obtain ⟨fields, hperson, hnames, hagree⟩ : ∃ fields, Catalogue.person = .struct "Person" true false fields ∧
      (fields.map Prod.fst).Nodup ∧
      ∀ f ∈ fields, (Entries.find? f.1 stranger).map f.2.decode = (Entries.find? f.1 strangerPlain).map f.2.decode := by
    refine ⟨_, rfl, by decide, ?_⟩
    simp only [List.forall_mem_cons]
    exact ⟨rfl, rfl, rfl, rfl, rfl, rfl, rfl, rfl, rfl, rfl, rfl, rfl, rfl, rfl, rfl, List.forall_mem_nil _⟩
  have hsame := (decodeOrDefault_of_defaults "Person" hnames hsorted hsorted').2.2 hagree
  rw [← hperson] at hsame
  exact ⟨hsorted, hsorted', herror, hsame.trans herror⟩

end SqlFormula.Typed.Shape
