import SqlFormula.Proofs.Entries
import SqlFormula.Proofs.Instant.ReadBack
import SqlFormula.Proofs.PortableText.Parts
import SqlFormula.Proofs.Value

/-!
# Portable text is read back

A value that nests at most `nestingLimit` deep is read back from its portable text, with the name of the object
which it may be. A value that nests deeper is refused.

## Main definitions

- `heldName` — the name that the text of a value holds
- `ReadsBack` — what the reader of containers makes of the text of a value

## Main statements

- `readsBack_array`, `readsBack_object` — containers, given their parts
- `readsBack` — all values
- `ofPortableText_portableText` — whole texts
-/

namespace SqlFormula

namespace PortableText

open Reader

/-- The name that the text of a value holds: only objects have one. -/
def heldName (name : String) : Value → String
  | .object _ => name
  | _ => ""

/-- The error of a text that nests too deep. -/
def IsTooDeep (e : FormatError) : Prop :=
  ∃ offset, e = .malformed offset .tooDeep

/-- What the reader of containers that nest at most `level` deep makes of the text of a value after its `@`: it reads
the value back, or finds that it nests too deep. -/
def ReadsBack (level : Nat) (v : Value) : Prop :=
  ∀ (name : String) (body : List Char) (offset : Nat), write name.toList v = '@' :: body →
    (v.depth ≤ level → (container level offset).Reads body (heldName name v, v)) ∧
      (level < v.depth → (container level offset).Fails body IsTooDeep)

/-! ### What is written -/

/-- A value is written as a mark and a text in quotes, or begins with an `@`. -/
theorem write_cases (v : Value) :
    (v.IsScalar ∧ ∃ m cs, scalar? v = some (m, cs) ∧ ∀ name, write name v = m.symbol :: quoted cs) ∨
      (scalar? v = none ∧ ∀ name, ∃ body, write name v = '@' :: body) := by
  cases v with
  | array items => exact .inr ⟨rfl, fun name => ⟨_, rfl⟩⟩
  | object entries => exact .inr ⟨rfl, fun name => ⟨_, rfl⟩⟩
  | _ => exact .inl ⟨trivial, _, _, rfl, fun _ => rfl⟩

theorem symbol_facts (m : Marker) : Text.isBlank m.symbol = false ∧ m.symbol ≠ ']' ∧ m.symbol ≠ '>' ∧ m.symbol ≠ '@' ∧
    m.symbol ≠ '=' ∧ (m.symbol == '\\' || isNameChar m.symbol) = false := by
  cases m <;> decide

theorem equal_endsName : ('=' == '\\' || isNameChar '=') = false := by
  decide

theorem startsPart_write (name : List Char) (v : Value) : StartsPart ']' (write name v) := by
  obtain ⟨-, m, cs, -, hwrite⟩ | ⟨-, hwrite⟩ := write_cases v
  · obtain ⟨hblank, hclose, -⟩ := symbol_facts m
    exact ⟨m.symbol, _, hwrite name, hblank, hclose⟩
  · obtain ⟨body, hbody⟩ := hwrite name
    exact ⟨'@', body, hbody, by decide, by decide⟩

def fieldText (e : String × Value) : List Char :=
  escapedName e.1.toList ++ afterKey e.2 (write e.1.toList e.2)

/-- What follows a key ends its name and closes nothing. -/
theorem afterKey_eq_cons (v : Value) (whole : List Char) :
    ∃ c cs, afterKey v whole = c :: cs ∧ Text.isBlank c = false ∧ c ≠ '>' ∧ (c == '\\' || isNameChar c) = false := by
  obtain ⟨-, m, cs, hscalar, -⟩ | ⟨hscalar, -⟩ := write_cases v
  · obtain ⟨hblank, -, hclose, -, -, hname⟩ := symbol_facts m
    exact ⟨m.symbol, '=' :: quoted cs, by simp only [afterKey, hscalar], hblank, hclose, hname⟩
  · exact ⟨'=', whole, by simp only [afterKey, hscalar], by decide, by decide, by decide⟩

/-- A field begins with its key, and without one with the mark or the sign after it. -/
theorem startsPart_fieldText (e : String × Value) : StartsPart '>' (fieldText e) := by
  rw [fieldText]
  cases hkey : e.1.toList with
  | nil =>
    obtain ⟨c, cs, hafter, hblank, hclose, -⟩ := afterKey_eq_cons e.2 (write [] e.2)
    exact ⟨c, cs, hafter, hblank, hclose⟩
  | cons c cs =>
    rw [escapedName, escape]
    by_cases hc : isNameChar c
    · rw [if_pos hc]
      refine ⟨c, _, rfl, ?_, ?_⟩
      · -- no character of a name is blank
        cases hblank : Text.isBlank c with
        | false => rfl
        | true =>
          simp only [isNameChar, Text.not_isAlphanumeric_of_isBlank hblank, Bool.false_or, Bool.or_eq_true,
            beq_iff_eq] at hc
          obtain (rfl | rfl) | rfl := hc <;> exact absurd hblank (by decide)
      · rintro rfl
        exact absurd hc (by decide)
    · rw [if_neg hc]
      exact ⟨'\\', _, rfl, by decide, by decide⟩

theorem writeItems_eq (items : List Value) :
    writeItems items = [' '].intercalate (items.map (write itemName.toList)) := by
  induction items with
  | nil => rfl
  | cons v vs ih =>
    cases vs with
    | nil => simp [writeItems]
    | cons w ws =>
      rw [writeItems, ih]
      · simp only [List.map_cons, List.intercalate_cons_cons]
        simp
      · exact List.cons_ne_nil w ws

theorem writeEntries_eq (entries : List (String × Value)) :
    writeEntries entries = [' '].intercalate (entries.map fieldText) := by
  induction entries with
  | nil => rfl
  | cons e rest ih =>
    cases rest with
    | nil => simp [writeEntries, fieldText]
    | cons e' rest =>
      rw [writeEntries, ih]
      · simp only [List.map_cons, List.intercalate_cons_cons]
        simp [fieldText]
      · exact List.cons_ne_nil e' rest

/-! ### Scalars -/

section

variable {inner : Nat → PortableReader (String × Value)} {v : Value} {m : Marker} {cs : List Char}

theorem scalar_eq_pure (hread : scalarValue? m (String.ofList cs) = some v) (offset : Nat) :
    scalar offset m (String.ofList cs) = pure v := by
  rw [scalar, hread]
  rfl

theorem reads_value_scalar (hread : scalarValue? m (String.ofList cs) = some v) :
    (value inner).Reads (m.symbol :: quoted cs) ("", v) := by
  refine reads_here_bind fun offset => Reads.next?_bind ?_
  show (valueAfter inner offset m.symbol).Reads (['`'] ++ (escapedText cs ++ ['`'])) ("", v)
  obtain ⟨-, -, -, hat, -⟩ := symbol_facts m
  have hmark := ofSymbol?_symbol m
  simp only [valueAfter, if_neg hat, hmark]
  refine Reads.bind (reads_expect "`") (Reads.map (reads_quotedText cs) ?_)
  rw [scalar_eq_pure hread]
  rfl

theorem scalar_eq_fail (hread : scalarValue? m (String.ofList cs) = none) (offset : Nat) :
    scalar offset m (String.ofList cs) = fail (.invalidScalar offset m (String.ofList cs)) := by
  rw [scalar, hread]

theorem fails_value_scalar (hread : scalarValue? m (String.ofList cs) = none) :
    (value inner).Fails (m.symbol :: quoted cs) fun e => ∃ offset, e = .invalidScalar offset m (String.ofList cs) := by
  refine fails_here_bind fun offset => Fails.next?_bind ?_
  show (valueAfter inner offset m.symbol).Fails (['`'] ++ (escapedText cs ++ ['`'])) _
  obtain ⟨-, -, -, hat, -⟩ := symbol_facts m
  have hmark := ofSymbol?_symbol m
  simp only [valueAfter, if_neg hat, hmark]
  refine Reads.bind_fails (reads_expect "`") fun stop rest => ?_
  rw [run_bind_ok (reads_quotedText cs stop rest), scalar_eq_fail hread]
  exact ⟨_, _, rfl, offset, rfl⟩

theorem reads_fieldValue_scalar (hread : scalarValue? m (String.ofList cs) = some v) (offset : Nat) :
    (fieldValue inner offset m.symbol).Reads ('=' :: quoted cs) v := by
  show (fieldValue inner offset m.symbol).Reads (['=', '`'] ++ (escapedText cs ++ ['`'])) v
  obtain ⟨-, -, -, -, hequal, -⟩ := symbol_facts m
  have hmark := ofSymbol?_symbol m
  simp only [fieldValue, if_neg hequal, hmark]
  exact Reads.bind (reads_expect "=`") (Reads.map (reads_quotedText cs) (scalar_eq_pure hread offset))

theorem fails_fieldValue_scalar (hread : scalarValue? m (String.ofList cs) = none) (offset : Nat) :
    (fieldValue inner offset m.symbol).Fails ('=' :: quoted cs) fun e =>
      ∃ offset, e = .invalidScalar offset m (String.ofList cs) := by
  show (fieldValue inner offset m.symbol).Fails (['=', '`'] ++ (escapedText cs ++ ['`'])) _
  obtain ⟨-, -, -, -, hequal, -⟩ := symbol_facts m
  have hmark := ofSymbol?_symbol m
  simp only [fieldValue, if_neg hequal, hmark]
  refine Reads.bind_fails (reads_expect "=`") fun stop rest => ?_
  rw [run_bind_ok (reads_quotedText cs stop rest), scalar_eq_fail hread]
  exact ⟨_, _, rfl, offset, rfl⟩

end

/-! ### Parts of containers -/

section

variable {level : Nat} {v : Value}

/-- The text of a date and time is read back. -/
def InstantsReadBack (v : Value) : Prop :=
  ∀ t, v.HasInstant t → Instant.ofText? t.text = some t

theorem scalarValue?_of_instants {m : Marker} {cs : List Char} (hinstants : InstantsReadBack v)
    (h : scalar? v = some (m, cs)) : scalarValue? m (String.ofList cs) = some v := by
  refine scalarValue?_scalar? h fun t ht => hinstants t ?_
  rw [ht]
  exact .self

theorem reads_value (hinstants : InstantsReadBack v) (h : ReadsBack level v) (hdepth : v.depth ≤ level)
    (name : String) : (value (container level)).Reads (write name.toList v) (heldName name v, v) := by
  obtain ⟨hscalar, m, cs, hcs, hwrite⟩ | ⟨-, hwrite⟩ := write_cases v
  · have hname : heldName name v = "" := by
      cases v with
      | object entries => exact hscalar.elim
      | _ => rfl
    rw [hwrite, hname]
    exact reads_value_scalar (scalarValue?_of_instants hinstants hcs)
  · obtain ⟨body, hbody⟩ := hwrite name.toList
    rw [hbody]
    exact reads_here_bind fun offset => Reads.next?_bind ((h name body offset hbody).1 hdepth)

theorem fails_value_container {inner : Nat → PortableReader (String × Value)} {body : List Char}
    {E : FormatError → Prop} (h : ∀ offset, (inner offset).Fails body E) : (value inner).Fails ('@' :: body) E :=
  fails_here_bind fun offset => Fails.next?_bind (h offset)

theorem fails_value (h : ReadsBack level v) (hdepth : level < v.depth) (name : String) :
    (value (container level)).Fails (write name.toList v) IsTooDeep := by
  obtain ⟨hscalar, -⟩ | ⟨-, hwrite⟩ := write_cases v
  · rw [Value.depth_of_isScalar hscalar] at hdepth
    exact absurd hdepth (Nat.not_lt_zero level)
  · obtain ⟨body, hbody⟩ := hwrite name.toList
    rw [hbody]
    exact fails_value_container fun offset => (h name body offset hbody).2 hdepth

theorem takes_anotherItem (hinstants : InstantsReadBack v) (h : ReadsBack level v) (hdepth : v.depth ≤ level)
    (vs : List Value) : Takes (anotherItem (container level)) (write itemName.toList v) vs (v :: vs) := by
  intro stop rest
  rw [anotherItem, run_bind_ok (reads_value hinstants h hdepth itemName stop rest)]
  rfl

theorem fails_anotherItem (h : ReadsBack level v) (hdepth : level < v.depth) (vs : List Value) :
    (anotherItem (container level) vs).Fails (write itemName.toList v) IsTooDeep :=
  Fails.bind (fails_value h hdepth itemName)

/-- The key of a field is read back, and what follows it is read as its value. -/
theorem run_field {inner : Nat → PortableReader (String × Value)} {key : String} {stop : Nat} {c : Char}
    {rest : List Char} (hname : (c == '\\' || isNameChar c) = false) :
    (field inner).run stop (escapedName key.toList ++ c :: rest) =
      ((fieldValue inner (stop - Text.byteLength (c :: rest)) c >>= fun v => pure (key, v)).run stop rest) := by
  have hends : EndsName (c :: rest) := by
    intro d hd
    obtain rfl := Option.some.inj hd
    exact hname
  rw [field, run_bind_ok (run_nameText key.toList hends), String.ofList_toList]
  rfl

theorem reads_field (hinstants : InstantsReadBack v) (h : ReadsBack level v) (hdepth : v.depth ≤ level) (key : String) :
    (field (container level)).Reads (fieldText (key, v)) (key, v) := by
  intro stop rest
  simp only [fieldText]
  -- the value of a scalar stands behind its mark, and that of a container behind an `=`
  obtain ⟨-, m, cs, hcs, -⟩ | ⟨hcontainer, hwrite⟩ := write_cases v
  · obtain ⟨-, -, -, -, -, hname⟩ := symbol_facts m
    simp only [afterKey, hcs]
    have hread := scalarValue?_of_instants hinstants hcs
    rw [List.append_assoc, List.cons_append, run_field hname, run_bind_ok (reads_fieldValue_scalar hread _ stop rest)]
    rfl
  · obtain ⟨body, hbody⟩ := hwrite key.toList
    have hvalue : ∀ offset, (fieldValue (container level) offset '=').Reads ('@' :: body) v := by
      intro offset
      exact reads_here_bind fun offset => Reads.next?_bind (Reads.map ((h key body offset hbody).1 hdepth) rfl)
    simp only [afterKey, hcontainer, hbody]
    rw [List.append_assoc, List.cons_append, run_field equal_endsName, run_bind_ok (hvalue _ stop rest)]
    rfl

theorem fails_field_of {inner : Nat → PortableReader (String × Value)} {key : String} {c : Char} {rest : List Char}
    {E : FormatError → Prop} (hname : (c == '\\' || isNameChar c) = false)
    (h : ∀ offset, (fieldValue inner offset c).Fails rest E) :
    (field inner).Fails (escapedName key.toList ++ c :: rest) E := by
  intro stop after
  rw [List.append_assoc, List.cons_append, run_field hname]
  exact Fails.bind (h _) stop after

theorem fails_fieldValue_container {inner : Nat → PortableReader (String × Value)} {body : List Char}
    {E : FormatError → Prop} (h : ∀ offset, (inner offset).Fails body E) (offset : Nat) :
    (fieldValue inner offset '=').Fails ('@' :: body) E :=
  fails_here_bind fun offset => Fails.next?_bind (Fails.bind (h offset))

theorem fails_field (h : ReadsBack level v) (hdepth : level < v.depth) (key : String) :
    (field (container level)).Fails (fieldText (key, v)) IsTooDeep := by
  obtain ⟨hscalar, -⟩ | ⟨hcontainer, hwrite⟩ := write_cases v
  · rw [Value.depth_of_isScalar hscalar] at hdepth
    exact absurd hdepth (Nat.not_lt_zero level)
  · obtain ⟨body, hbody⟩ := hwrite key.toList
    simp only [fieldText, afterKey, hcontainer, hbody]
    exact fails_field_of equal_endsName (fails_fieldValue_container fun offset => (h key body offset hbody).2 hdepth)

/-- A field is taken with the blanks after it. Its key has to come after those before. -/
theorem takes_anotherField {e : String × Value} (hinstants : InstantsReadBack e.2) (h : ReadsBack level e.2)
    (hdepth : e.2.depth ≤ level) {entries : List (String × Value)} (hkeys : ∀ e' ∈ entries, e'.1 < e.1) :
    Takes (anotherField (container level)) (fieldText e) entries (entries ++ [e]) := by
  obtain ⟨key, v⟩ := e
  intro stop rest
  have hadd (offset : Nat) : addField offset key v entries = pure (entries ++ [(key, v)]) := by
    rw [addField, Entries.find?_of_forall_lt hkeys, Entries.insert_of_forall_lt v hkeys]
    rfl
  rw [anotherField, run_bind_ok (run_here stop _), run_bind_ok (reads_field hinstants h hdepth key stop rest)]
  simp only [hadd]
  rfl

theorem fails_anotherField {e : String × Value} (h : ReadsBack level e.2) (hdepth : level < e.2.depth)
    (entries : List (String × Value)) : (anotherField (container level) entries).Fails (fieldText e) IsTooDeep :=
  fails_here_bind fun _ => Fails.bind (fails_field h hdepth e.1)

end

/-! ### All parts of a container -/

section

variable {level : Nat}

theorem rounds_items {items : List Value} (hinstants : ∀ v ∈ items, InstantsReadBack v)
    (h : ∀ v ∈ items, ReadsBack level v) (hdepth : ∀ v ∈ items, v.depth ≤ level) (vs : List Value) :
    Rounds (anotherItem (container level)) (write itemName.toList) vs items (items.reverse ++ vs) := by
  induction items generalizing vs with
  | nil => exact .done
  | cons v items ih =>
    rw [List.forall_mem_cons] at hinstants h hdepth
    rw [List.reverse_cons, List.append_assoc]
    exact .round (takes_anotherItem hinstants.1 h.1 hdepth.1 vs) (ih hinstants.2 h.2 hdepth.2 (v :: vs))

/-- The first item that is not taken is refused. -/
theorem failingRounds_items {inner : Nat → PortableReader (String × Value)} {P : Value → Prop}
    {E : FormatError → Prop} {items : List Value}
    (htakes : ∀ v ∈ items, P v → ∀ vs, Takes (anotherItem inner) (write itemName.toList v) vs (v :: vs))
    (hfails : ∀ v ∈ items, ¬P v → ∀ vs, (anotherItem inner vs).Fails (write itemName.toList v) E)
    (h : ¬∀ v ∈ items, P v) (vs : List Value) :
    FailingRounds (anotherItem inner) (write itemName.toList) E vs items := by
  induction items generalizing vs with
  | nil => exact absurd (fun _ hv => absurd hv List.not_mem_nil) h
  | cons v items ih =>
    rw [List.forall_mem_cons] at htakes hfails h
    -- this item is refused, or a later one is
    by_cases hv : P v
    · exact .later (htakes.1 hv vs) (ih htakes.2 hfails.2 (fun hrest => h ⟨hv, hrest⟩) (v :: vs))
    · exact .here (hfails.1 hv vs)

/-- All fields are taken, since their keys ascend. -/
theorem rounds_fields {entries before : List (String × Value)} (hsorted : Entries.Sorted (before ++ entries))
    (hinstants : ∀ e ∈ entries, InstantsReadBack e.2) (h : ∀ e ∈ entries, ReadsBack level e.2)
    (hdepth : ∀ e ∈ entries, e.2.depth ≤ level) :
    Rounds (anotherField (container level)) fieldText before entries (before ++ entries) := by
  induction entries generalizing before with
  | nil =>
    rw [List.append_nil]
    exact .done
  | cons e entries ih =>
    rw [List.forall_mem_cons] at hinstants h hdepth
    -- this field has joined those before it when the next one is taken
    have hkeys := hsorted.forall_lt
    rw [List.append_cons] at hsorted ⊢
    exact .round (takes_anotherField hinstants.1 h.1 hdepth.1 hkeys) (ih hsorted hinstants.2 h.2 hdepth.2)

/-- The first field that is not taken is refused. -/
theorem failingRounds_fields {inner : Nat → PortableReader (String × Value)} {P : String × Value → Prop}
    {E : FormatError → Prop} {entries before : List (String × Value)} (hsorted : Entries.Sorted (before ++ entries))
    (htakes : ∀ e ∈ entries, P e → ∀ before, (∀ e' ∈ before, e'.1 < e.1) →
      Takes (anotherField inner) (fieldText e) before (before ++ [e]))
    (hfails : ∀ e ∈ entries, ¬P e → ∀ before, (anotherField inner before).Fails (fieldText e) E)
    (h : ¬∀ e ∈ entries, P e) : FailingRounds (anotherField inner) fieldText E before entries := by
  induction entries generalizing before with
  | nil => exact absurd (fun _ he => absurd he List.not_mem_nil) h
  | cons e entries ih =>
    rw [List.forall_mem_cons] at htakes hfails h
    have hkeys := hsorted.forall_lt
    by_cases he : P e
    · rw [List.append_cons] at hsorted
      exact .later (htakes.1 he before hkeys) (ih hsorted htakes.2 hfails.2 fun hrest => h ⟨he, hrest⟩)
    · exact .here (hfails.1 he before)

end

/-! ### Containers -/

section

variable {level : Nat}

theorem reads_items {items : List Value} (hinstants : ∀ v ∈ items, InstantsReadBack v)
    (h : ∀ v ∈ items, ReadsBack level v) (hdepth : ∀ v ∈ items, v.depth ≤ level) :
    (PortableText.items (container level)).Reads (writeItems items ++ [']']) items := by
  intro stop rest
  have hloop := @run_loop_of_rounds _ _ _ _ ']' (fun _ => consuming_anotherItem (container level)) (by decide)
    (startsPart_write itemName.toList) _ _ _ (rounds_items hinstants h hdepth []) stop rest
  rw [List.append_assoc, writeItems_eq, PortableText.items, run_bind_ok (run_blanks stop _), List.singleton_append,
    dropWhile_intercalate (by decide) (startsPart_write itemName.toList), run_bind_ok hloop, List.append_nil]
  -- the items have been gathered in reverse
  show (Except.ok items.reverse.reverse, rest) = _
  rw [List.reverse_reverse]

theorem fails_items {inner : Nat → PortableReader (String × Value)} {E : FormatError → Prop} {items : List Value}
    (h : FailingRounds (anotherItem inner) (write itemName.toList) E [] items) :
    (PortableText.items inner).Fails (writeItems items) E := by
  have hne : items ≠ [] := by
    rintro rfl
    cases h
  intro stop rest
  obtain ⟨e, left, hloop, he⟩ := @fails_loop_of_failingRounds _ _ _ _ _ ']'
    (fun _ => consuming_anotherItem inner) (startsPart_write itemName.toList) _ _ h stop rest
  rw [writeItems_eq, PortableText.items, run_bind_ok (run_blanks stop _),
    dropWhile_intercalate_cons (startsPart_write itemName.toList) hne, run_bind_error hloop]
  exact ⟨e, left, rfl, he⟩

theorem reads_fields {entries : List (String × Value)} (hsorted : Entries.Sorted entries)
    (hinstants : ∀ e ∈ entries, InstantsReadBack e.2) (h : ∀ e ∈ entries, ReadsBack level e.2)
    (hdepth : ∀ e ∈ entries, e.2.depth ≤ level) :
    (fields (container level)).Reads (writeEntries entries ++ ['>']) entries := by
  intro stop rest
  have hloop := @run_loop_of_rounds _ _ _ _ '>' (fun _ => consuming_anotherField (container level)) (by decide)
    startsPart_fieldText _ _ _ (@rounds_fields level entries [] hsorted hinstants h hdepth) stop rest
  rw [List.append_assoc, writeEntries_eq, fields, run_bind_ok (run_blanks stop _), List.singleton_append,
    dropWhile_intercalate (by decide) startsPart_fieldText, run_bind_ok hloop]
  rfl

theorem fails_fields {inner : Nat → PortableReader (String × Value)} {E : FormatError → Prop}
    {entries : List (String × Value)} (h : FailingRounds (anotherField inner) fieldText E [] entries) :
    (fields inner).Fails (writeEntries entries) E := by
  have hne : entries ≠ [] := by
    rintro rfl
    cases h
  intro stop rest
  obtain ⟨e, left, hloop, he⟩ := @fails_loop_of_failingRounds _ _ _ _ _ '>'
    (fun _ => consuming_anotherField inner) startsPart_fieldText _ _ h stop rest
  rw [writeEntries_eq, fields, run_bind_ok (run_blanks stop _), dropWhile_intercalate_cons startsPart_fieldText hne,
    run_bind_error hloop]
  exact ⟨e, left, rfl, he⟩

/-- After what an object starts with, its name and its fields are read, if there may be one more inside. -/
theorem run_containerAfter_object (inner? : Option (Nat → PortableReader (String × Value))) (offset stop : Nat)
    (rest : List Char) : (containerAfter inner? offset).run stop (objectStart.toList.tail ++ rest) =
      match inner? with
      | some inner => (objectAfter inner).run stop rest
      | none => (.error (.malformed offset .tooDeep), objectStart.toList.tail ++ rest) := by
  rw [containerAfter, run_bind_ok run_ahead, if_pos (by simp)]
  cases inner? with
  | none => rfl
  | some inner => rw [nested, run_bind_ok (run_skip _), List.drop_left]

/-- After what an array starts with, its items are read, if there may be one more inside. -/
theorem run_containerAfter_array (inner? : Option (Nat → PortableReader (String × Value))) (offset stop : Nat)
    (rest : List Char) : (containerAfter inner? offset).run stop (arrayStart.toList.tail ++ rest) =
      match inner? with
      | some inner => (arrayAfter inner).run stop rest
      | none => (.error (.malformed offset .tooDeep), arrayStart.toList.tail ++ rest) := by
  have hobject : objectStart.toList.tail.isPrefixOf (arrayStart.toList.tail ++ rest) = false := rfl
  rw [containerAfter, run_bind_ok run_ahead, if_neg (by rw [hobject]; exact Bool.false_ne_true), if_pos (by simp)]
  cases inner? with
  | none => rfl
  | some inner => rw [nested, run_bind_ok (run_skip _), List.drop_left]

theorem body_array {items : List Value} {name body : List Char} (h : write name (.array items) = '@' :: body) :
    body = arrayStart.toList.tail ++ (writeItems items ++ [']']) := by
  have hwrite : '@' :: (arrayStart.toList.tail ++ (writeItems items ++ [']'])) = '@' :: body := by
    rw [← h, write, List.append_assoc]
    rfl
  exact (List.cons.inj hwrite).2.symm

theorem body_object {entries : List (String × Value)} {name body : List Char}
    (h : write name (.object entries) = '@' :: body) :
    body = objectStart.toList.tail ++ (escapedName name ++ '<' :: (writeEntries entries ++ ['>'])) := by
  have hwrite : '@' :: (objectStart.toList.tail ++ (escapedName name ++ '<' :: (writeEntries entries ++ ['>']))) =
      '@' :: body := by
    rw [← h, write, List.append_assoc, List.append_assoc]
    rfl
  exact (List.cons.inj hwrite).2.symm

/-- An array is read back if its items are. -/
theorem readsBack_array {items : List Value} (hinstants : ∀ v ∈ items, InstantsReadBack v)
    (h : ∀ level, ∀ v ∈ items, ReadsBack level v) (level : Nat) : ReadsBack level (.array items) := by
  intro name body offset hbody
  rw [body_array hbody]
  -- where nothing may be inside any more, the array is refused as a whole
  cases level with
  | zero =>
    refine ⟨fun hdepth => absurd hdepth (Nat.not_succ_le_zero _), fun _ stop rest => ?_⟩
    rw [List.append_assoc, container, run_containerAfter_array]
    exact ⟨_, _, rfl, offset, rfl⟩
  | succ level =>
    refine ⟨fun hdepth stop rest => ?_, fun hdepth stop rest => ?_⟩
    · have hitems := reads_items hinstants (h level) (Value.depth_array_le.1 hdepth) stop rest
      rw [List.append_assoc, container, run_containerAfter_array]
      simp only [arrayAfter]
      rw [run_bind_ok hitems]
      rfl
    · have hdeep : ¬∀ v ∈ items, v.depth ≤ level := fun hall =>
        absurd (Value.depth_array_le.2 hall) (Nat.not_le_of_gt hdepth)
      have hitems := fails_items (failingRounds_items
        (fun v hv hdepth vs => takes_anotherItem (hinstants v hv) (h level v hv) hdepth vs)
        (fun v hv hdepth vs => fails_anotherItem (h level v hv) (Nat.lt_of_not_le hdepth) vs) hdeep [])
      rw [List.append_assoc, container, run_containerAfter_array]
      exact Fails.bind (hitems.append [']']) stop rest

theorem run_objectAfter (inner : Nat → PortableReader (String × Value)) (name : String) (stop : Nat)
    (rest : List Char) : (objectAfter inner).run stop (escapedName name.toList ++ '<' :: rest) =
      (fields inner >>= fun entries => pure (name, Value.object entries)).run stop rest := by
  have hends : EndsName ('<' :: rest) := by
    intro d hd
    obtain rfl := Option.some.inj hd
    decide
  have hexpect : (expect "<").run stop ('<' :: rest) = (.ok (), rest) := reads_expect "<" stop rest
  rw [objectAfter, run_bind_ok (run_nameText name.toList hends), String.ofList_toList, run_bind_ok hexpect]

/-- An object is read back, with its name, if the values of its fields are. -/
theorem readsBack_object {entries : List (String × Value)} (hsorted : Entries.Sorted entries)
    (hinstants : ∀ e ∈ entries, InstantsReadBack e.2) (h : ∀ level, ∀ e ∈ entries, ReadsBack level e.2) (level : Nat) :
    ReadsBack level (.object entries) := by
  intro name body offset hbody
  rw [body_object hbody]
  cases level with
  | zero =>
    refine ⟨fun hdepth => absurd hdepth (Nat.not_succ_le_zero _), fun _ stop rest => ?_⟩
    rw [List.append_assoc, container, run_containerAfter_object]
    exact ⟨_, _, rfl, offset, rfl⟩
  | succ level =>
    refine ⟨fun hdepth stop rest => ?_, fun hdepth stop rest => ?_⟩
    · have hfields := reads_fields hsorted hinstants (h level) (Value.depth_object_le.1 hdepth) stop rest
      rw [List.append_assoc, container, run_containerAfter_object]
      simp only [List.append_assoc, List.cons_append] at hfields ⊢
      rw [run_objectAfter, run_bind_ok hfields]
      rfl
    · -- some field nests too deep, and the loop fails there
      have hdeep : ¬∀ e ∈ entries, e.2.depth ≤ level := fun hall =>
        absurd (Value.depth_object_le.2 hall) (Nat.not_le_of_gt hdepth)
      have hrounds : FailingRounds (anotherField (container level)) fieldText IsTooDeep [] entries :=
        failingRounds_fields hsorted
          (fun e he hdepth _ hkeys => takes_anotherField (hinstants e he) (h level e he) hdepth hkeys)
          (fun e he hdepth before => fails_anotherField (h level e he) (Nat.lt_of_not_le hdepth) before) hdeep
      have hfields := Fails.bind (f := fun entries => pure (name, Value.object entries))
        ((fails_fields hrounds).append ['>']) stop rest
      rw [List.append_assoc, container, run_containerAfter_object]
      simp only [List.append_assoc, List.cons_append] at hfields ⊢
      rw [run_objectAfter]
      exact hfields

end

/-- Scalars do not begin with the `@` of containers. -/
theorem write_ne_of_isScalar {v : Value} (h : v.IsScalar) (name body : List Char) : write name v ≠ '@' :: body := by
  obtain ⟨-, m, cs, -, hwrite⟩ | ⟨hcontainer, -⟩ := write_cases v
  · obtain ⟨-, -, -, hat, -⟩ := symbol_facts m
    rw [hwrite]
    exact fun heq => hat (List.cons.inj heq).1
  · cases v with
    | array items => exact h.elim
    | object entries => exact h.elim
    | _ => cases hcontainer

/-- Every value is read back, or nests too deep. -/
theorem readsBack {v : Value} (hv : v.WellFormed) (hinstants : InstantsReadBack v) (level : Nat) :
    ReadsBack level v := by
  induction v using Value.induction generalizing level with
  | scalar v hscalar => exact fun name body offset hbody => absurd hbody (write_ne_of_isScalar hscalar _ body)
  | array items ih =>
    rw [Value.wellFormed_array] at hv
    have hitems : ∀ v ∈ items, InstantsReadBack v := fun v hmem t ht => hinstants t (.item hmem ht)
    exact readsBack_array hitems (fun level v hmem => ih v hmem (hv v hmem) (hitems v hmem) level) level
  | object entries ih =>
    rw [Value.wellFormed_object] at hv
    have hentries : ∀ e ∈ entries, InstantsReadBack e.2 := fun e hmem t ht => hinstants t (.entry hmem ht)
    exact readsBack_object hv.1 hentries (fun level e hmem => ih e hmem (hv.2 e hmem) (hentries e hmem) level) level

theorem dropWhile_write (name : List Char) (v : Value) : (write name v).dropWhile Text.isBlank = write name v :=
  (startsPart_write name v).dropWhile_eq

/-- A text is that of a value if it is read as one without anything left. -/
theorem ofPortableText_of_reads {v : Value} {name : String} {result : String × Value}
    (h : (value (container nestingLimit)).Reads (write name.toList v) result) :
    Value.ofPortableText (v.portableText name) = .ok result := by
  have hvalue := h (v.portableText name).utf8ByteSize []
  rw [List.append_nil] at hvalue
  have htext : (v.portableText name).toList = write name.toList v := String.toList_ofList
  rw [Value.ofPortableText, htext, document, run_bind_ok (run_blanks _ _), dropWhile_write, run_bind_ok hvalue]
  rfl

theorem ofPortableText_of_error {text : String} {e : FormatError} {left : List Char}
    (hblank : text.toList.dropWhile Text.isBlank = text.toList)
    (hrun : (value (container nestingLimit)).run text.utf8ByteSize text.toList = (.error e, left)) :
    Value.ofPortableText text = .error e := by
  rw [Value.ofPortableText, document, run_bind_ok (run_blanks _ _), hblank, run_bind_error hrun]

theorem ofPortableText_of_fails {v : Value} {name : String} {E : FormatError → Prop}
    (h : (value (container nestingLimit)).Fails (write name.toList v) E) :
    ∃ e, Value.ofPortableText (v.portableText name) = .error e ∧ E e := by
  have htext : (v.portableText name).toList = write name.toList v := String.toList_ofList
  obtain ⟨e, left, hrun, he⟩ := h (v.portableText name).utf8ByteSize []
  rw [List.append_nil, ← htext] at hrun
  exact ⟨e, ofPortableText_of_error (by rw [htext, dropWhile_write]) hrun, he⟩

end PortableText

open PortableText in
/-- **A value is read back from its portable text, or nests too deep.** It comes back with the name of the root if it is
an object, and with the empty name if not. Dates and times have to be read back from their own texts. -/
theorem Value.ofPortableText_portableText (v : Value) (name : String) (hv : v.WellFormed)
    (hinstants : ∀ t, v.HasInstant t → Instant.ofText? t.text = some t) :
    (v.depth ≤ nestingLimit → Value.ofPortableText (v.portableText name) = .ok (heldName name v, v)) ∧
      (nestingLimit < v.depth →
        ∃ offset, Value.ofPortableText (v.portableText name) = .error (.malformed offset .tooDeep)) := by
  have h := readsBack hv hinstants nestingLimit
  refine ⟨fun hdepth => ofPortableText_of_reads (reads_value hinstants h hdepth name), fun hdepth => ?_⟩
  obtain ⟨e, herror, offset, rfl⟩ := ofPortableText_of_fails (fails_value h hdepth name)
  exact ⟨offset, herror⟩

/-- An object with odd keys, an instant and containers side by side. -/
def Value.oddObject : Value :=
  .object [("", .array [.dateTime .epoch, .object [], .float (0.0 / 0.0)]), ("a `\\b", .object [(">", .text "\\`")])]

theorem Value.oddObject_ofPortableText :
    Value.oddObject.WellFormed ∧ (∀ t, Value.oddObject.HasInstant t → Instant.ofText? t.text = some t) ∧
      Value.oddObject.depth ≤ PortableText.nestingLimit ∧
      Value.ofPortableText (Value.oddObject.portableText "my row") = .ok ("my row", Value.oddObject) := by
  have hwellFormed : Value.oddObject.WellFormed := by
    refine ⟨by decide, ⟨trivial, ⟨by decide, trivial⟩, trivial, trivial⟩, ⟨by decide, trivial, trivial⟩, trivial⟩
  have hinstants : ∀ t, Value.oddObject.HasInstant t → Instant.ofText? t.text = some t := by
    have hepoch : Instant.ofText? Instant.epoch.text = some Instant.epoch := by
      rw [Instant.ofText?_text_eq]
      exact if_pos (.inr (by decide))
    intro t ht
    have hfloat (x : Float) : ¬Value.HasInstant t (.float x) := nofun
    have htext (s : String) : ¬Value.HasInstant t (.text s) := nofun
    have heq : t = Instant.epoch := by
      simpa [Value.oddObject, hasInstant_object, hasInstant_array, hasInstant_dateTime, hfloat, htext] using ht
    rw [heq]
    exact hepoch
  have hdepth : Value.oddObject.depth ≤ PortableText.nestingLimit := by decide
  exact ⟨hwellFormed, hinstants, hdepth, (ofPortableText_portableText _ "my row" hwellFormed hinstants).1 hdepth⟩

end SqlFormula
