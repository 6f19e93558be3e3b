import SqlFormula.Proofs.Instant.Codecs

/-!
# Portable text that breaks off

A portable text that breaks off is refused, and the error says that it breaks off, unless a date and time whose own text
is not read back stands in front of the break.

## Main definitions

- `RefusesCuts` — the reader of containers fails wherever the text of a value breaks off
- `CutRounds` — steps take parts one after the other, and fail on one that breaks off
- `Exhausts` — nothing is left of some input, or reading it fails
- `IsExact`, `Loses` — no date and time in a value is lost, or one is

## Main statements

- `failsWithin_quotedText`, `failsWithin_nameText` — texts in quotes and names that break off
- `exhausts_loop` — parts with blanks between them, the last of which breaks off
- `refusesCuts`, `loses` — all values
- `Value.ofPortableText_cut` — whole texts
-/

namespace SqlFormula

namespace PortableText

open Reader

/-! ### Backslashes -/

/-- Where characters break off, each backslash has the character after it, or the last one has lost it. -/
theorem escape_cut {bare : Char → Bool} {cs front back : List Char} (h : front ++ back = escape bare cs) :
    ∃ cs', front = escape bare cs' ∨ front = escape bare cs' ++ ['\\'] := by
  induction cs generalizing front with
  | nil => exact ⟨[], .inl (List.append_eq_nil_iff.1 h).1⟩
  | cons c cs ih =>
    cases front with
    | nil => exact ⟨[], .inl rfl⟩
    | cons d front =>
      by_cases hc : bare c
      · rw [escape, if_pos hc] at h
        obtain ⟨rfl, hfront⟩ := List.cons.inj h
        obtain ⟨cs', hcs⟩ := ih hfront
        refine ⟨d :: cs', ?_⟩
        rw [escape, if_pos hc, List.cons_append]
        exact hcs.imp (congrArg _) (congrArg _)
      · rw [escape, if_neg hc] at h
        obtain ⟨rfl, hfront⟩ := List.cons.inj h
        -- what is there ends in this backslash, or goes on after the character it escapes
        cases front with
        | nil => exact ⟨[], .inr rfl⟩
        | cons d front =>
          obtain ⟨rfl, hrest⟩ := List.cons.inj hfront
          obtain ⟨cs', hcs⟩ := ih hrest
          refine ⟨d :: cs', ?_⟩
          rw [escape, if_neg hc, List.cons_append, List.cons_append]
          exact hcs.imp (congrArg ('\\' :: d :: ·)) (congrArg ('\\' :: d :: ·))

theorem run_unescaped_backslash {bare more : Char → Bool} (hbare : ∀ c, bare c → more c ∧ c ≠ '\\')
    (hmore : more '\\') (cs : List Char) (stop : Nat) :
    ∃ offset, (unescaped more).run stop (escape bare cs ++ ['\\']) = (.error (.truncated offset .escaped), []) := by
  have hnext : (['\\'] : List Char).head?.filter more = some '\\' := by simp [hmore]
  rw [unescaped, run_unescape_loop hbare hmore]
  exact ⟨_, run_loop_error (List.cons_ne_nil _ _) hnext rfl⟩

/-! ### Names, texts in quotes and scalars -/

/-- What breaks off in front of the last character or before it breaks off what stands in front of that character. -/
theorem append_dropLast {front back cs : List Char} {c : Char} (h : front ++ back = cs ++ [c]) (hback : back ≠ []) :
    front ++ back.dropLast = cs := by
  rw [← List.dropLast_append_of_ne_nil hback, h, List.dropLast_concat]

theorem failsWithin_here_bind {β : Type} {f : Nat → PortableReader β} {cs : List Char} {E : FormatError → Prop}
    (hf : ∀ offset, (f offset).FailsWithin cs E) : (here >>= f).FailsWithin cs E :=
  fun stop front back hcut hback => hf _ stop front back hcut hback

section

variable {E : FormatError → Prop} (hE : ∀ offset missing, E (.truncated offset missing))

include hE

theorem failsWithin_expect (literal : String) : (expect literal).FailsWithin literal.toList E := by
  intro stop front back hcut hback
  have hlong : literal.toList.isPrefixOf front = false := by
    rw [Bool.eq_false_iff, Ne, List.isPrefixOf_iff_prefix, ← hcut]
    intro hprefix
    have hlength := hprefix.length_le
    have hpos := List.length_pos_iff.2 hback
    rw [List.length_append] at hlength
    omega
  have hprefix : front.isPrefixOf literal.toList = true := by
    rw [List.isPrefixOf_iff_prefix, ← hcut]
    exact List.prefix_append front back
  rw [expect, run_bind_ok (run_here stop _), run_bind_ok run_ahead, hlong, if_neg Bool.false_ne_true, if_pos hprefix]
  exact ⟨_, _, rfl, hE _ _⟩

theorem failsWithin_quotedText (cs : List Char) : quotedText.FailsWithin (escapedText cs ++ ['`']) E := by
  intro stop front back hcut hback
  obtain ⟨cs', rfl | rfl⟩ := escape_cut (append_dropLast hcut hback)
  · have hrun : (unescaped (· != '`')).run stop (escape isTextChar cs' ++ []) = (.ok cs'.reverse, []) :=
      run_unescaped continuesText_of_isTextChar rfl cs' nofun
    rw [List.append_nil] at hrun
    rw [quotedText, run_bind_ok hrun]
    exact ⟨_, _, rfl, hE _ _⟩
  · obtain ⟨offset, hrun⟩ := run_unescaped_backslash continuesText_of_isTextChar rfl cs' stop
    rw [quotedText, run_bind_error hrun]
    exact ⟨_, _, rfl, hE _ _⟩

/-- A name that breaks off may be read as a shorter one, but then nothing is left for what follows it. -/
theorem failsWithin_nameText {β : Type} {f : String → PortableReader β} {cs : List Char} {c : Char} {ys : List Char}
    (hc : (c == '\\' || isNameChar c) = false) (hend : ∀ name, (f name).FailsAtEnd E)
    (hf : (f (String.ofList cs)).FailsWithin (c :: ys) E) : (nameText >>= f).FailsWithin (escapedName cs ++ c :: ys) E := by
  intro stop front back hcut hback
  obtain ⟨more, hname, -⟩ | ⟨front', rfl, hmore⟩ := cut_append hcut
  · -- it breaks off within the name: what is there is a name, or ends in a lone backslash
    obtain ⟨cs', hcs | hcs⟩ := escape_cut hname
    · have hrun := @run_nameText cs' stop [] nofun
      rw [List.append_nil, escapedName, ← hcs] at hrun
      rw [run_bind_ok hrun]
      exact hend _ stop
    · obtain ⟨offset, hrun⟩ := run_unescaped_backslash continuesName_of_isNameChar rfl cs' stop
      have hfail : nameText.run stop front = (.error (.truncated offset .escaped), []) := by
        rw [nameText, hcs, run_bind_error hrun]
      rw [run_bind_error hfail]
      exact ⟨_, _, rfl, hE _ _⟩
  · -- it breaks off behind the name, which is read as it is
    have hends : EndsName front' := by
      cases front' with
      | nil => exact nofun
      | cons d front' =>
        obtain ⟨rfl, -⟩ := List.cons.inj hmore
        intro d hd
        obtain rfl := Option.some.inj hd
        exact hc
    rw [run_bind_ok (run_nameText cs hends)]
    exact hf stop front' back hmore hback

/-! ### Values and fields -/

variable {inner : Nat → PortableReader (String × Value)}

theorem failsWithin_value_scalar (m : Marker) (cs : List Char) :
    (value inner).FailsWithin (m.symbol :: quoted cs) E := by
  refine failsWithin_here_bind fun offset => FailsWithin.next?_bind (fun _ => ⟨_, _, rfl, hE _ _⟩) ?_
  show (valueAfter inner offset m.symbol).FailsWithin (['`'] ++ (escapedText cs ++ ['`'])) E
  obtain ⟨-, -, -, hat, -⟩ := symbol_facts m
  have hmark := ofSymbol?_symbol m
  simp only [valueAfter, if_neg hat, hmark]
  exact (failsWithin_expect hE "`").bind (reads_expect "`") ((failsWithin_quotedText hE cs).bind_left _)

theorem failsWithin_value_container {body : List Char} (h : ∀ offset, (inner offset).FailsWithin body E) :
    (value inner).FailsWithin ('@' :: body) E :=
  failsWithin_here_bind fun offset => FailsWithin.next?_bind (fun _ => ⟨_, _, rfl, hE _ _⟩) (h offset)

theorem failsWithin_fieldValue_scalar (m : Marker) (cs : List Char) (offset : Nat) :
    (fieldValue inner offset m.symbol).FailsWithin ('=' :: quoted cs) E := by
  show (fieldValue inner offset m.symbol).FailsWithin (['=', '`'] ++ (escapedText cs ++ ['`'])) E
  obtain ⟨-, -, -, -, hequal, -⟩ := symbol_facts m
  have hmark := ofSymbol?_symbol m
  simp only [fieldValue, if_neg hequal, hmark]
  exact (failsWithin_expect hE "=`").bind (reads_expect "=`") ((failsWithin_quotedText hE cs).bind_left _)

theorem failsWithin_fieldValue_container {body : List Char} (h : ∀ offset, (inner offset).FailsWithin body E)
    (offset : Nat) : (fieldValue inner offset '=').FailsWithin ('@' :: body) E :=
  failsWithin_here_bind fun offset =>
    FailsWithin.next?_bind (fun _ => ⟨_, _, rfl, hE _ _⟩) ((h offset).bind_left _)

/-- A field breaks off in its key, in front of the character after the key, or behind it. -/
theorem failsWithin_field {key : List Char} {c : Char} {rest : List Char}
    (hc : (c == '\\' || isNameChar c) = false) (h : ∀ offset, (fieldValue inner offset c).FailsWithin rest E) :
    (field inner).FailsWithin (escapedName key ++ c :: rest) E := by
  refine failsWithin_nameText hE hc (fun _ _ => ⟨_, _, rfl, hE _ _⟩) ?_
  exact failsWithin_here_bind fun offset =>
    FailsWithin.next?_bind (fun _ => ⟨_, _, rfl, hE _ _⟩) ((h offset).bind_left _)

/-- The reader of containers fails wherever the text of a value breaks off. -/
def RefusesCuts (level : Nat) (E : FormatError → Prop) (v : Value) : Prop :=
  ∀ (name : String) (body : List Char) (offset : Nat), write name.toList v = '@' :: body →
    (container level offset).FailsWithin body E

variable {level : Nat} {v : Value}

theorem failsWithin_value (h : RefusesCuts level E v) (name : String) :
    (value (container level)).FailsWithin (write name.toList v) E := by
  obtain ⟨-, m, cs, -, hwrite⟩ | ⟨-, hwrite⟩ := write_cases v
  · rw [hwrite]
    exact failsWithin_value_scalar hE m cs
  · obtain ⟨body, hbody⟩ := hwrite name.toList
    rw [hbody]
    exact failsWithin_value_container hE fun offset => h name body offset hbody

theorem failsWithin_anotherItem (h : RefusesCuts level E v) (vs : List Value) :
    (anotherItem (container level) vs).FailsWithin (write itemName.toList v) E :=
  (failsWithin_value hE h itemName).bind_left _

theorem failsWithin_anotherField {e : String × Value} (h : RefusesCuts level E e.2)
    (entries : List (String × Value)) : (anotherField (container level) entries).FailsWithin (fieldText e) E := by
  refine failsWithin_here_bind fun offset => FailsWithin.bind_left ?_ _
  rw [fieldText]
  obtain ⟨-, m, cs, hcs, -⟩ | ⟨hcontainer, hwrite⟩ := write_cases e.2
  · obtain ⟨-, -, -, -, -, hname⟩ := symbol_facts m
    simp only [afterKey, hcs]
    exact failsWithin_field hE hname fun offset => failsWithin_fieldValue_scalar hE m cs offset
  · obtain ⟨body, hbody⟩ := hwrite e.1.toList
    simp only [afterKey, hcontainer, hbody]
    exact failsWithin_field hE equal_endsName
      fun offset => failsWithin_fieldValue_container hE (fun offset => h e.1 body offset hbody) offset

end

/-! ### Parts with blanks between them -/

section

variable {τ α : Type} {text : τ → List Char} {step : α → PortableReader α} {E : FormatError → Prop}

/-- Steps take parts one after the other, up to the end or to one at which they fail, and fail on parts that break off. -/
inductive CutRounds (step : α → PortableReader α) (text : τ → List Char) (E : FormatError → Prop) : α → List τ → Prop
  | done {taken : α} : CutRounds step text E taken []
  | failing {taken : α} {x : τ} {xs : List τ} :
    (step taken).FailsWithin (text x) E → (step taken).Fails (text x) E → CutRounds step text E taken (x :: xs)
  | round {taken taken' : α} {x : τ} {xs : List τ} :
    (step taken).FailsWithin (text x) E → Takes step (text x) taken taken' → CutRounds step text E taken' xs →
      CutRounds step text E taken (x :: xs)

variable {close : Char} {consumes : ∀ (_ : Char) taken, (step taken).Consuming}

/-- Parts that break off do not begin with blanks. -/
theorem dropWhile_cut (hstart : ∀ x, StartsPart close (text x)) {xs : List τ} {front back : List Char}
    (hcut : front ++ back = [' '].intercalate (xs.map text)) : front.dropWhile Text.isBlank = front := by
  by_cases hfront : front = []
  · rw [hfront]
    rfl
  · cases xs with
    | nil => exact absurd (List.append_eq_nil_iff.1 hcut).1 hfront
    | cons x xs =>
      obtain ⟨after, hparts, -⟩ := intercalate_cons x xs
      exact (StartsPart.cut (hcut ▸ hparts ▸ (hstart x).append after) hfront).dropWhile_eq

/-- Where parts break off behind the first one, the others break off without the blank in front of them. -/
theorem exists_cut_of_after (hstart : ∀ x, StartsPart close (text x)) {xs : List τ} {after front back : List Char}
    (hafter : xs = [] ∧ after = [] ∨ xs ≠ [] ∧ after = ' ' :: [' '].intercalate (xs.map text))
    (hcut : front ++ back = after) :
    ∃ back', front.dropWhile Text.isBlank ++ back' = [' '].intercalate (xs.map text) := by
  obtain ⟨rfl, rfl⟩ | ⟨-, rfl⟩ := hafter
  · obtain ⟨rfl, -⟩ := List.append_eq_nil_iff.1 hcut
    exact ⟨[], rfl⟩
  · cases front with
    | nil => exact ⟨_, rfl⟩
    | cons c front =>
      obtain ⟨rfl, hrest⟩ := List.cons.inj hcut
      rw [List.dropWhile_cons_of_pos (by decide), dropWhile_cut hstart hrest]
      exact ⟨back, hrest⟩

/-- Nothing is left of some input, or reading it fails. -/
def Exhausts {β : Type} (r : PortableReader β) (E : FormatError → Prop) (stop : Nat) (input : List Char) : Prop :=
  (∃ e left, r.run stop input = (.error e, left) ∧ E e) ∨ ∃ result, r.run stop input = (.ok result, [])

/-- Where a part breaks off, nothing of it is there, or the step for it fails. -/
theorem exhausts_loop_of_failsWithin {taken : α} {cs : List Char} (hstart : StartsPart close cs)
    (h : (step taken).FailsWithin cs E) (stop : Nat) {front more : List Char} (hcut : front ++ more = cs)
    (hmore : more ≠ []) :
    Exhausts (loop (fun input => input.head?.filter (· != close)) (fun _ => step) consumes taken) E stop front := by
  by_cases hfront : front = []
  · rw [hfront]
    exact .inr ⟨_, run_loop_of_none rfl⟩
  · obtain ⟨e, left, hrun, he⟩ := h stop front more hcut hmore
    obtain ⟨c, hnext, -⟩ := head?_filter_of_startsPart (StartsPart.cut (hcut ▸ hstart) hfront) []
    rw [List.append_nil] at hnext
    exact .inl ⟨e, left, run_loop_error hfront hnext hrun, he⟩

/-- Of parts that break off, a loop takes all that there are, or fails. -/
theorem exhausts_loop (hstart : ∀ x, StartsPart close (text x)) {taken : α} {xs : List τ}
    (h : CutRounds step text E taken xs) (stop : Nat) {front back : List Char}
    (hcut : front ++ back = [' '].intercalate (xs.map text)) :
    Exhausts (loop (fun input => input.head?.filter (· != close)) (fun _ => step) consumes taken) E stop front := by
  induction h generalizing front back with
  | done =>
    obtain ⟨rfl, -⟩ := List.append_eq_nil_iff.1 hcut
    exact .inr ⟨_, run_loop_of_none rfl⟩
  | @failing taken x xs hcuts hfails =>
    obtain ⟨after, hparts, -⟩ := intercalate_cons x xs
    rw [hparts] at hcut
    obtain ⟨more, hfront, hmore⟩ | ⟨front', rfl, -⟩ := cut_append hcut
    · exact exhausts_loop_of_failsWithin (hstart x) hcuts stop hfront hmore
    · obtain ⟨c, hnext, hne⟩ := head?_filter_of_startsPart (hstart x) front'
      obtain ⟨e, left, hrun, he⟩ := hfails stop front'
      exact .inl ⟨e, left, run_loop_error hne hnext hrun, he⟩
  | @round taken taken' x xs hcuts htakes _ ih =>
    obtain ⟨after, hparts, hafter⟩ := intercalate_cons x xs
    rw [hparts] at hcut
    obtain ⟨more, hfront, hmore⟩ | ⟨front', rfl, hrest⟩ := cut_append hcut
    · exact exhausts_loop_of_failsWithin (hstart x) hcuts stop hfront hmore
    · obtain ⟨c, hnext, hne⟩ := head?_filter_of_startsPart (hstart x) front'
      obtain ⟨back', hback⟩ := exists_cut_of_after hstart hafter hrest
      rw [Exhausts, run_loop_step hne hnext (htakes stop front')]
      exact ih hback

/-- Where parts break off, the closing character is missing. -/
theorem failsWithin_parts {β : Type} (hstart : ∀ x, StartsPart close (text x)) {taken : α} {xs : List τ}
    (h : CutRounds step text E taken xs) {f : α → PortableReader β} (hend : ∀ result, (f result).FailsAtEnd E) :
    (blanks >>= fun _ =>
      loop (fun input => input.head?.filter (· != close)) (fun _ => step) consumes taken >>= f).FailsWithin
        ([' '].intercalate (xs.map text) ++ [close]) E := by
  intro stop front back hcut hback
  have hfront := append_dropLast hcut hback
  rw [run_bind_ok (run_blanks stop front), dropWhile_cut hstart hfront]
  obtain ⟨e, left, hrun, he⟩ | ⟨result, hrun⟩ := exhausts_loop hstart h stop hfront
  · exact ⟨e, left, run_bind_error hrun f, he⟩
  · rw [run_bind_ok hrun]
    exact hend result stop

end

/-! ### Containers -/

section

variable {inner : Nat → PortableReader (String × Value)} {E : FormatError → Prop}

/-- Items that are taken or refused, and refused if they break off. -/
theorem cutRounds_items {P : Value → Prop} {items : List Value}
    (hcuts : ∀ v ∈ items, ∀ vs, (anotherItem inner vs).FailsWithin (write itemName.toList v) E)
    (htakes : ∀ v ∈ items, P v → ∀ vs, Takes (anotherItem inner) (write itemName.toList v) vs (v :: vs))
    (hfails : ∀ v ∈ items, ¬P v → ∀ vs, (anotherItem inner vs).Fails (write itemName.toList v) E) (vs : List Value) :
    CutRounds (anotherItem inner) (write itemName.toList) E vs items := by
  induction items generalizing vs with
  | nil => exact .done
  | cons v items ih =>
    rw [List.forall_mem_cons] at hcuts htakes hfails
    by_cases hv : P v
    · exact .round (hcuts.1 vs) (htakes.1 hv vs) (ih hcuts.2 htakes.2 hfails.2 (v :: vs))
    · exact .failing (hcuts.1 vs) (hfails.1 hv vs)

/-- Fields that are taken or refused, and refused if they break off. -/
theorem cutRounds_fields {P : String × Value → Prop} {entries before : List (String × Value)}
    (hsorted : Entries.Sorted (before ++ entries))
    (hcuts : ∀ e ∈ entries, ∀ before, (anotherField inner before).FailsWithin (fieldText e) E)
    (htakes : ∀ e ∈ entries, P e → ∀ before, (∀ e' ∈ before, e'.1 < e.1) →
      Takes (anotherField inner) (fieldText e) before (before ++ [e]))
    (hfails : ∀ e ∈ entries, ¬P e → ∀ before, (anotherField inner before).Fails (fieldText e) E) :
    CutRounds (anotherField inner) fieldText E before entries := by
  induction entries generalizing before with
  | nil => exact .done
  | cons e entries ih =>
    rw [List.forall_mem_cons] at hcuts htakes hfails
    have hkeys := hsorted.forall_lt
    by_cases he : P e
    · rw [List.append_cons] at hsorted
      exact .round (hcuts.1 before) (htakes.1 he before hkeys) (ih hsorted hcuts.2 htakes.2 hfails.2)
    · exact .failing (hcuts.1 before) (hfails.1 he before)

variable (hE : ∀ offset missing, E (.truncated offset missing))

include hE

theorem failsWithin_items {items : List Value}
    (h : CutRounds (anotherItem inner) (write itemName.toList) E [] items) :
    (PortableText.items inner).FailsWithin (writeItems items ++ [']']) E := by
  rw [writeItems_eq]
  exact failsWithin_parts (startsPart_write itemName.toList) h fun _ _ => ⟨_, _, rfl, hE _ _⟩

theorem failsWithin_fields {entries : List (String × Value)}
    (h : CutRounds (anotherField inner) fieldText E [] entries) :
    (fields inner).FailsWithin (writeEntries entries ++ ['>']) E := by
  rw [writeEntries_eq]
  exact failsWithin_parts startsPart_fieldText h fun _ _ => ⟨_, _, rfl, hE _ _⟩

/-- What containers start with is missing where it breaks off. -/
theorem failsWithin_containerAfter_start {start : List Char}
    (hstart : start ∈ [objectStart.toList.tail, arrayStart.toList.tail]) (offset : Nat) :
    (containerAfter (some inner) offset).FailsWithin start E := by
  intro stop front back hcut hback
  have hbegins : ∀ start ∈ [objectStart.toList.tail, arrayStart.toList.tail], ∀ front ∈ start.inits, front ≠ start →
      objectStart.toList.tail.isPrefixOf front = false ∧ arrayStart.toList.tail.isPrefixOf front = false ∧
        (front.isPrefixOf objectStart.toList.tail || front.isPrefixOf arrayStart.toList.tail) = true := by
    decide
  have hne : front ≠ start := by
    rintro rfl
    exact hback (List.append_right_eq_self.1 hcut)
  obtain ⟨hobject, harray, hshort⟩ := hbegins start hstart front ((List.mem_inits front start).2 ⟨back, hcut⟩) hne
  rw [containerAfter, run_bind_ok run_ahead, hobject, harray, if_neg Bool.false_ne_true, if_neg Bool.false_ne_true,
    if_pos hshort]
  exact ⟨_, _, rfl, hE _ _⟩

theorem failsWithin_containerAfter {start body : List Char} {after : PortableReader (String × Value)} {offset : Nat}
    (hstart : start ∈ [objectStart.toList.tail, arrayStart.toList.tail])
    (hrun : ∀ stop rest, (containerAfter (some inner) offset).run stop (start ++ rest) = after.run stop rest)
    (h : after.FailsWithin body E) : (containerAfter (some inner) offset).FailsWithin (start ++ body) E := by
  intro stop front back hcut hback
  obtain ⟨more, hfront, hmore⟩ | ⟨front', rfl, hrest⟩ := cut_append hcut
  · exact failsWithin_containerAfter_start hE hstart offset stop front more hfront hmore
  · rw [hrun]
    exact h stop front' back hrest hback

theorem failsWithin_objectAfter {name : List Char} {rest : List Char} (h : (fields inner).FailsWithin rest E) :
    (objectAfter inner).FailsWithin (escapedName name ++ '<' :: rest) E := by
  refine failsWithin_nameText hE (by decide) (fun name stop => ?_) ?_
  · exact (failsWithin_expect hE "<").bind_left _ stop [] _ rfl (by decide)
  · exact (failsWithin_expect hE "<").bind (reads_expect "<") (h.bind_left _)

end

/-! ### Dates and times that are lost -/

/-- The text of every date and time in a value is read back. -/
def IsExact (v : Value) : Prop :=
  ∀ t, v.HasInstant t → t.HasExactText

/-- Errors that include those of the dates and times in a value whose text is not read back. -/
def AdmitsLost (E : FormatError → Prop) (v : Value) : Prop :=
  ∀ t, v.HasInstant t → ¬t.HasExactText → ∀ offset, E (.invalidScalar offset .dateTime t.text)

theorem IsExact.instantsReadBack {v : Value} (h : IsExact v) : InstantsReadBack v :=
  fun t ht => Instant.ofText?_of_hasExactText (h t ht)

theorem isExact_array {items : List Value} : IsExact (.array items) ↔ ∀ v ∈ items, IsExact v := by
  constructor
  · exact fun h v hv t ht => h t (.item hv ht)
  · rintro h t ht
    obtain ⟨v, hv, ht⟩ := Value.hasInstant_array.1 ht
    exact h v hv t ht

theorem isExact_object {entries : List (String × Value)} :
    IsExact (.object entries) ↔ ∀ e ∈ entries, IsExact e.2 := by
  constructor
  · exact fun h e he t ht => h t (.entry he ht)
  · rintro h t ht
    obtain ⟨e, he, ht⟩ := Value.hasInstant_object.1 ht
    exact h e he t ht

section

variable {E : FormatError → Prop} {level : Nat} {v : Value}

/-- A scalar that is not exact is a date and time, and its text is not one. -/
theorem lost_scalar {m : Marker} {cs : List Char} (hE : AdmitsLost E v) (h : ¬IsExact v)
    (hscalar : scalar? v = some (m, cs)) :
    scalarValue? m (String.ofList cs) = none ∧ ∀ offset, E (.invalidScalar offset m (String.ofList cs)) := by
  simp only [IsExact, not_forall] at h
  obtain ⟨t, ht, hlost⟩ := h
  cases ht with
  | self =>
    cases hscalar
    rw [String.ofList_toList, scalarValue?, Instant.ofText?_of_not_hasExactText hlost]
    exact ⟨rfl, hE t .self hlost⟩
  | item => cases hscalar
  | entry => cases hscalar

/-- The reader of containers fails on the text of a value in front of its closing bracket. -/
def Loses (level : Nat) (E : FormatError → Prop) (v : Value) : Prop :=
  ∀ (name : String) (body : List Char), write name.toList v = '@' :: body →
    ∃ front close, body = front ++ [close] ∧ ∀ offset, (container level offset).Fails front E

theorem fails_value_of_loses (hE : AdmitsLost E v) (hlost : ¬IsExact v) (h : Loses level E v) (name : String) :
    (value (container level)).Fails (write name.toList v) E := by
  obtain ⟨-, m, cs, hcs, hwrite⟩ | ⟨-, hwrite⟩ := write_cases v
  · obtain ⟨hread, hadmits⟩ := lost_scalar hE hlost hcs
    rw [hwrite]
    refine (fails_value_scalar hread).mono ?_
    rintro e ⟨offset, rfl⟩
    exact hadmits offset
  · obtain ⟨body, hbody⟩ := hwrite name.toList
    rw [hbody]
    obtain ⟨front, close, rfl, hfails⟩ := h name body hbody
    exact fails_value_container fun offset => (hfails offset).append [close]

theorem fails_field_of_loses (hE : AdmitsLost E v) (hlost : ¬IsExact v) (h : Loses level E v) (key : String) :
    (field (container level)).Fails (fieldText (key, v)) E := by
  obtain ⟨-, m, cs, hcs, -⟩ | ⟨hcontainer, hwrite⟩ := write_cases v
  · obtain ⟨hread, hadmits⟩ := lost_scalar hE hlost hcs
    obtain ⟨-, -, -, -, -, hname⟩ := symbol_facts m
    simp only [fieldText, afterKey, hcs]
    refine fails_field_of hname fun offset => (fails_fieldValue_scalar hread offset).mono ?_
    rintro e ⟨offset, rfl⟩
    exact hadmits offset
  · obtain ⟨body, hbody⟩ := hwrite key.toList
    simp only [fieldText, afterKey, hcontainer, hbody]
    obtain ⟨front, close, rfl, hfails⟩ := h key body hbody
    exact fails_field_of equal_endsName (fails_fieldValue_container fun offset => (hfails offset).append [close])

theorem fails_anotherItem_of_loses (hE : AdmitsLost E v) (hlost : ¬IsExact v) (h : Loses level E v) (vs : List Value) :
    (anotherItem (container level) vs).Fails (write itemName.toList v) E :=
  Fails.bind (fails_value_of_loses hE hlost h itemName)

theorem fails_anotherField_of_loses {e : String × Value} (hE : AdmitsLost E e.2) (hlost : ¬IsExact e.2)
    (h : Loses level E e.2) (entries : List (String × Value)) :
    (anotherField (container level) entries).Fails (fieldText e) E :=
  fails_here_bind fun _ => Fails.bind (fails_field_of_loses hE hlost h e.1)

theorem takes_anotherItem_of_isExact (hv : v.WellFormed) (hdepth : v.depth ≤ level) (h : IsExact v)
    (vs : List Value) : Takes (anotherItem (container level)) (write itemName.toList v) vs (v :: vs) :=
  takes_anotherItem h.instantsReadBack (readsBack hv h.instantsReadBack level) hdepth vs

theorem takes_anotherField_of_isExact {e : String × Value} (hv : e.2.WellFormed) (hdepth : e.2.depth ≤ level)
    (h : IsExact e.2) {entries : List (String × Value)} (hkeys : ∀ e' ∈ entries, e'.1 < e.1) :
    Takes (anotherField (container level)) (fieldText e) entries (entries ++ [e]) :=
  takes_anotherField h.instantsReadBack (readsBack hv h.instantsReadBack level) hdepth hkeys

/-- A container in which a date and time is lost is refused before its closing bracket. -/
theorem loses (hv : v.WellFormed) (hE : AdmitsLost E v) (hdepth : v.depth ≤ level) (hlost : ¬IsExact v) :
    Loses level E v := by
  induction v using Value.induction generalizing level with
  | scalar v hscalar => exact fun name body hbody => absurd hbody (write_ne_of_isScalar hscalar _ body)
  | array items ih =>
    rw [Value.wellFormed_array] at hv
    rw [isExact_array] at hlost
    cases level with
    | zero => exact absurd hdepth (Nat.not_succ_le_zero _)
    | succ level =>
      rw [Value.depth_array_le] at hdepth
      have hrounds := failingRounds_items
        (fun v hmem hexact vs => takes_anotherItem_of_isExact (hv v hmem) (hdepth v hmem) hexact vs)
        (fun v hmem hnot vs => by
          have hE : AdmitsLost E v := fun t ht => hE t (.item hmem ht)
          exact fails_anotherItem_of_loses hE hnot (ih v hmem (hv v hmem) hE (hdepth v hmem) hnot) vs)
        hlost []
      intro name body hbody
      refine ⟨arrayStart.toList.tail ++ writeItems items, ']', by rw [body_array hbody, List.append_assoc], ?_⟩
      intro offset stop rest
      rw [List.append_assoc, container, run_containerAfter_array]
      exact Fails.bind (fails_items hrounds) stop rest
  | object entries ih =>
    rw [Value.wellFormed_object] at hv
    rw [isExact_object] at hlost
    cases level with
    | zero => exact absurd hdepth (Nat.not_succ_le_zero _)
    | succ level =>
      rw [Value.depth_object_le] at hdepth
      have hrounds : FailingRounds (anotherField (container level)) fieldText E [] entries :=
        failingRounds_fields hv.1
          (fun e hmem hexact _ hkeys => takes_anotherField_of_isExact (hv.2 e hmem) (hdepth e hmem) hexact hkeys)
          (fun e hmem hnot before => by
            have hE : AdmitsLost E e.2 := fun t ht => hE t (.entry hmem ht)
            exact fails_anotherField_of_loses hE hnot (ih e hmem (hv.2 e hmem) hE (hdepth e hmem) hnot) before)
          hlost
      intro name body hbody
      refine ⟨objectStart.toList.tail ++ (escapedName name.toList ++ '<' :: writeEntries entries), '>', ?_, ?_⟩
      · rw [body_object hbody, List.append_assoc, List.append_assoc]
        rfl
      · intro offset stop rest
        rw [List.append_assoc, container, run_containerAfter_object]
        simp only [List.append_assoc, List.cons_append]
        rw [run_objectAfter]
        exact Fails.bind (fails_fields hrounds) stop rest

/-- The text of a value is refused wherever it breaks off. -/
theorem refusesCuts (hE : ∀ offset missing, E (.truncated offset missing)) (hv : v.WellFormed)
    (hlost : AdmitsLost E v) (hdepth : v.depth ≤ level) : RefusesCuts level E v := by
  induction v using Value.induction generalizing level with
  | scalar v hscalar => exact fun name body offset hbody => absurd hbody (write_ne_of_isScalar hscalar _ body)
  | array items ih =>
    rw [Value.wellFormed_array] at hv
    cases level with
    | zero => exact absurd hdepth (Nat.not_succ_le_zero _)
    | succ level =>
      rw [Value.depth_array_le] at hdepth
      have hadmits : ∀ v ∈ items, AdmitsLost E v := fun v hmem t ht => hlost t (.item hmem ht)
      have hrounds := cutRounds_items
        (fun v hmem vs => failsWithin_anotherItem hE (ih v hmem (hv v hmem) (hadmits v hmem) (hdepth v hmem)) vs)
        (fun v hmem hexact vs => takes_anotherItem_of_isExact (hv v hmem) (hdepth v hmem) hexact vs)
        (fun v hmem hnot vs => fails_anotherItem_of_loses (hadmits v hmem) hnot
          (loses (hv v hmem) (hadmits v hmem) (hdepth v hmem) hnot) vs) []
      intro name body offset hbody
      rw [body_array hbody]
      exact failsWithin_containerAfter hE (by decide) (run_containerAfter_array (some (container level)) offset)
        ((failsWithin_items hE hrounds).bind_left _)
  | object entries ih =>
    rw [Value.wellFormed_object] at hv
    cases level with
    | zero => exact absurd hdepth (Nat.not_succ_le_zero _)
    | succ level =>
      rw [Value.depth_object_le] at hdepth
      have hadmits : ∀ e ∈ entries, AdmitsLost E e.2 := fun e hmem t ht => hlost t (.entry hmem ht)
      have hrounds : CutRounds (anotherField (container level)) fieldText E [] entries :=
        cutRounds_fields hv.1
          (fun e hmem before =>
            failsWithin_anotherField hE (ih e hmem (hv.2 e hmem) (hadmits e hmem) (hdepth e hmem)) before)
          (fun e hmem hexact _ hkeys => takes_anotherField_of_isExact (hv.2 e hmem) (hdepth e hmem) hexact hkeys)
          (fun e hmem hnot before => fails_anotherField_of_loses (hadmits e hmem) hnot
            (loses (hv.2 e hmem) (hadmits e hmem) (hdepth e hmem) hnot) before)
      intro name body offset hbody
      rw [body_object hbody]
      exact failsWithin_containerAfter hE (by decide) (run_containerAfter_object (some (container level)) offset)
        (failsWithin_objectAfter hE (failsWithin_fields hE hrounds))

/-! ### Whole texts -/

theorem ofPortableText_cut_of_failsWithin {name : String}
    (h : (value (container nestingLimit)).FailsWithin (write name.toList v) E) {front back : String}
    (hcut : v.portableText name = front ++ back) (hback : back ≠ "") :
    ∃ e, Value.ofPortableText front = .error e ∧ E e := by
  have htext : front.toList ++ back.toList = write name.toList v := by
    rw [← String.toList_append, ← hcut]
    exact String.toList_ofList
  have hblank : front.toList.dropWhile Text.isBlank = front.toList := by
    by_cases hfront : front.toList = []
    · rw [hfront]
      rfl
    · exact (StartsPart.cut (htext ▸ startsPart_write name.toList v) hfront).dropWhile_eq
  obtain ⟨e, left, hrun, he⟩ := h front.utf8ByteSize front.toList back.toList htext (by simpa using hback)
  exact ⟨e, ofPortableText_of_error hblank hrun, he⟩

end

end PortableText

namespace Value

open PortableText

/-- **A portable text that breaks off is refused**, for every value that nests at most `nestingLimit` deep and every name.
The error is that the text breaks off, or a date and time in front of the break whose own text is not read back; it is
always the former exactly for scalars and for values in which no date and time is lost. -/
theorem ofPortableText_cut (v : Value) (name : String) (hv : v.WellFormed) (hdepth : v.depth ≤ nestingLimit) :
    (∀ front back, v.portableText name = front ++ back → back ≠ "" →
      ∃ e, ofPortableText front = .error e ∧ ((∃ offset missing, e = .truncated offset missing) ∨
        ∃ t offset, v.HasInstant t ∧ ¬t.HasExactText ∧ e = .invalidScalar offset .dateTime t.text)) ∧
    ((∀ front back, v.portableText name = front ++ back → back ≠ "" →
      ∃ offset missing, ofPortableText front = .error (.truncated offset missing)) ↔
        v.IsScalar ∨ ∀ t, v.HasInstant t → t.HasExactText) := by
  refine ⟨fun front back hcut hback => ?_, fun h => ?_, fun h front back hcut hback => ?_⟩
  · have hcuts := refusesCuts
      (E := fun e => (∃ offset missing, e = .truncated offset missing) ∨
        ∃ t offset, v.HasInstant t ∧ ¬t.HasExactText ∧ e = .invalidScalar offset .dateTime t.text)
      (fun offset missing => .inl ⟨offset, missing, rfl⟩) hv
      (fun t ht hlost offset => .inr ⟨t, offset, ht, hlost, rfl⟩) hdepth
    exact ofPortableText_cut_of_failsWithin
      (failsWithin_value (fun offset missing => .inl ⟨offset, missing, rfl⟩) hcuts name) hcut hback
  · by_contra hnot
    rw [not_or] at hnot
    obtain ⟨hscalar, hlost⟩ := hnot
    have hloses := loses (E := fun e => ∃ offset marker text, e = .invalidScalar offset marker text) hv
      (fun t _ _ offset => ⟨offset, _, _, rfl⟩) hdepth hlost
    -- the text without its last character already holds the date and time
    obtain ⟨hscalar', -⟩ | ⟨-, hwrite⟩ := write_cases v
    · exact hscalar hscalar'
    obtain ⟨body, hbody⟩ := hwrite name.toList
    obtain ⟨front, close, rfl, hfails⟩ := hloses name body hbody
    have hcut : v.portableText name = String.ofList ('@' :: front) ++ String.ofList [close] := by
      rw [portableText, hbody, ← String.ofList_append]
      rfl
    obtain ⟨offset, missing, htruncated⟩ := h _ _ hcut (by simp)
    obtain ⟨e, left, hrun, offset', marker, text, rfl⟩ :=
      fails_value_container hfails (String.ofList ('@' :: front)).utf8ByteSize []
    rw [List.append_nil] at hrun
    have herror := @ofPortableText_of_error (String.ofList ('@' :: front)) _ left
      (by rw [String.toList_ofList]; rfl) (by rw [String.toList_ofList]; exact hrun)
    rw [htruncated] at herror
    cases herror
  · have hE : ∀ offset missing, ∃ offset' missing', FormatError.truncated offset missing = .truncated offset' missing' :=
      fun offset missing => ⟨offset, missing, rfl⟩
    have hcuts : RefusesCuts nestingLimit (fun e => ∃ offset missing, e = .truncated offset missing) v := by
      obtain hscalar | hexact := h
      · exact fun name body offset hbody => absurd hbody (write_ne_of_isScalar hscalar _ body)
      · exact refusesCuts hE hv (fun t ht hlost => absurd (hexact t ht) hlost) hdepth
    obtain ⟨e, herror, offset, missing, rfl⟩ :=
      ofPortableText_cut_of_failsWithin (failsWithin_value hE hcuts name) hcut hback
    exact ⟨offset, missing, herror⟩

/-- An object of which the text breaks off at many places: in its name, in a key, in a date and time, in an array. -/
def datedObject : Value :=
  .object [("a `b", .null), ("at", .array [.dateTime .epoch, .text "`"])]

theorem datedObject_cut :
    datedObject.WellFormed ∧ datedObject.depth ≤ nestingLimit ∧
      ∀ front back, datedObject.portableText "my row" = front ++ back → back ≠ "" →
        ∃ offset missing, ofPortableText front = .error (.truncated offset missing) := by
  have hwellFormed : datedObject.WellFormed := by
    refine ⟨by decide, trivial, ⟨trivial, trivial, trivial⟩, trivial⟩
  have hdepth : datedObject.depth ≤ nestingLimit := by decide
  have hexact : ∀ t, datedObject.HasInstant t → t.HasExactText := by
    intro t ht
    have hnull : ¬HasInstant t .null := nofun
    have htext (s : String) : ¬HasInstant t (.text s) := nofun
    have heq : t = Instant.epoch := by
      simpa [datedObject, hasInstant_object, hasInstant_array, hasInstant_dateTime, hnull, htext] using ht
    rw [heq]
    decide
  exact ⟨hwellFormed, hdepth, (ofPortableText_cut datedObject "my row" hwellFormed hdepth).2.2 (.inr hexact)⟩

/-- The text of an array with a lost date and time is refused for that, not for the bracket that is missing. -/
theorem ofPortableText_cut_lost :
    (array [.dateTime Instant.leapSecondOf10000]).WellFormed ∧
      (array [.dateTime Instant.leapSecondOf10000]).depth ≤ nestingLimit ∧
      (array [.dateTime Instant.leapSecondOf10000]).portableText "" = "@array[*`@253402300859.1000000000`" ++ "]" ∧
      ofPortableText "@array[*`@253402300859.1000000000`" =
        .error (.invalidScalar 7 .dateTime "@253402300859.1000000000") := by
  refine ⟨⟨trivial, trivial⟩, by decide, by decide +kernel, ?_⟩
  have herror : (match ofPortableText "@array[*`@253402300859.1000000000`" with
      | .error e => some e
      | .ok _ => none) = some (.invalidScalar 7 .dateTime "@253402300859.1000000000") := by
    decide +kernel
  split at herror
  · next e hread =>
    rw [hread, Option.some.inj herror]
  · cases herror

end Value

end SqlFormula
