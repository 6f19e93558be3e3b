import SqlFormula.PortableText.Read
import SqlFormula.PortableText.Write
import SqlFormula.Proofs.Number.ReadBack
import SqlFormula.Proofs.Reader
import SqlFormula.Proofs.Text.Base64
import SqlFormula.Proofs.Text.Letter

/-!
# Parts of portable text

Names, texts in quotes and scalars are read back from what is written for them.

## Main statements

- `run_unescaped` — characters are read back from behind their backslashes
- `run_nameText`, `reads_quotedText` — names, and texts in quotes
- `scalarValue?_scalar?` — scalars
- `run_loop_of_rounds`, `fails_loop_of_failingRounds` — parts with blanks between them
-/

namespace SqlFormula.PortableText

open Reader

/-! ### Backslashes -/

theorem run_unescape {c : Char} (hc : c ≠ '\\') (cs : List Char) (stop : Nat) (rest : List Char) :
    (unescape cs).run stop (c :: rest) = (.ok (c :: cs), rest) := by
  rw [unescape, run_bind_ok run_next?]
  simp only [List.head?_cons, List.tail_cons]
  rfl

theorem run_unescape_escaped (c : Char) (cs : List Char) (stop : Nat) (rest : List Char) :
    (unescape cs).run stop ('\\' :: c :: rest) = (.ok (c :: cs), rest) :=
  rfl

section

variable {bare more : Char → Bool} (hbare : ∀ c, bare c → more c ∧ c ≠ '\\') (hmore : more '\\')

include hbare hmore

/-- Characters join those taken before them, without their backslashes. -/
theorem run_unescape_loop (cs taken : List Char) (stop : Nat) (rest : List Char) :
    (loop (fun input => input.head?.filter more) (fun _ => unescape) (fun _ => consuming_unescape) taken).run stop
      (escape bare cs ++ rest) =
    (loop (fun input => input.head?.filter more) (fun _ => unescape) (fun _ => consuming_unescape)
      (cs.reverse ++ taken)).run stop rest := by
  induction cs generalizing taken with
  | nil => rfl
  | cons c cs ih =>
    have hround : ∃ b, ((escape bare (c :: cs) ++ rest).head?.filter more = some b) ∧
        (unescape taken).run stop (escape bare (c :: cs) ++ rest) = (.ok (c :: taken), escape bare cs ++ rest) := by
      by_cases hc : bare c
      · obtain ⟨hm, hne⟩ := hbare c hc
        rw [escape, if_pos hc, List.cons_append]
        exact ⟨c, by simp [hm], run_unescape hne taken stop _⟩
      · rw [escape, if_neg hc]
        exact ⟨'\\', by simp [hmore], run_unescape_escaped c taken stop _⟩
    obtain ⟨b, hnext, hstep⟩ := hround
    have hne : escape bare (c :: cs) ++ rest ≠ [] := by
      intro h
      rw [h] at hnext
      cases hnext
    rw [run_loop_step hne hnext hstep, ih, List.reverse_cons, List.append_assoc]
    rfl

/-- Characters are read back from behind their backslashes, up to one that ends them. -/
theorem run_unescaped (cs : List Char) {stop : Nat} {rest : List Char} (hrest : ∀ c ∈ rest.head?, more c = false) :
    (unescaped more).run stop (escape bare cs ++ rest) = (.ok cs.reverse, rest) := by
  have hnext : rest.head?.filter more = none := by
    cases rest with
    | nil => rfl
    | cons c rest => simp [hrest c rfl]
  rw [unescaped, run_unescape_loop hbare hmore, List.append_nil]
  exact run_loop_of_none hnext

end

/-! ### Names -/

/-- What follows does not go on with a name. -/
def EndsName (rest : List Char) : Prop :=
  ∀ c ∈ rest.head?, (c == '\\' || isNameChar c) = false

theorem continuesName_of_isNameChar (c : Char) (hc : isNameChar c) : (c == '\\' || isNameChar c) = true ∧ c ≠ '\\' := by
  refine ⟨by rw [hc, Bool.or_true], ?_⟩
  rintro rfl
  revert hc
  decide

theorem run_nameText (cs : List Char) {stop : Nat} {rest : List Char} (hrest : EndsName rest) :
    nameText.run stop (escapedName cs ++ rest) = (.ok (String.ofList cs), rest) := by
  rw [nameText, escapedName, run_bind_ok (run_unescaped continuesName_of_isNameChar rfl cs hrest), List.reverse_reverse]
  rfl

/-! ### Texts in quotes -/

theorem continuesText_of_isTextChar (c : Char) (hc : isTextChar c) : (c != '`') = true ∧ c ≠ '\\' := by
  simpa [isTextChar] using hc

theorem reads_quotedText (cs : List Char) : quotedText.Reads (escapedText cs ++ ['`']) (String.ofList cs) := by
  intro stop rest
  have hend : ∀ c ∈ ('`' :: rest).head?, (c != '`') = false := by
    intro c hc
    obtain rfl := Option.some.inj hc
    rfl
  rw [List.append_assoc, List.singleton_append, quotedText, escapedText,
    run_bind_ok (run_unescaped continuesText_of_isTextChar rfl cs hend), List.reverse_reverse]
  rfl

/-! ### Fixed characters -/

@[simp]
theorem run_here (stop : Nat) (input : List Char) :
    here.run stop input = (.ok (stop - Text.byteLength input), input) :=
  rfl

theorem reads_here_bind {β : Type} {f : Nat → PortableReader β} {cs : List Char} {b : β}
    (hf : ∀ offset, (f offset).Reads cs b) : (here >>= f).Reads cs b :=
  fun stop rest => hf _ stop rest

theorem fails_here_bind {β : Type} {f : Nat → PortableReader β} {cs : List Char} {E : FormatError → Prop}
    (hf : ∀ offset, (f offset).Fails cs E) : (here >>= f).Fails cs E :=
  fun stop rest => hf _ stop rest

theorem reads_expect (literal : String) : (expect literal).Reads literal.toList () := by
  intro stop rest
  have hprefix : literal.toList.isPrefixOf (literal.toList ++ rest) = true := by simp
  rw [expect, run_bind_ok (run_here stop _), run_bind_ok run_ahead, if_pos hprefix, run_skip, ← String.length_toList,
    List.drop_left]

@[simp]
theorem run_blanks (stop : Nat) (input : List Char) :
    blanks.run stop input = (.ok (), input.dropWhile Text.isBlank) :=
  rfl

/-! ### Scalars -/

/-- A scalar is read back from its text; a date and time is if its own text is. -/
theorem scalarValue?_scalar? {v : Value} {m : Marker} {cs : List Char} (h : scalar? v = some (m, cs))
    (hinstant : ∀ t, v = .dateTime t → Instant.ofText? t.text = some t) :
    scalarValue? m (String.ofList cs) = some v := by
  cases v with
  | null =>
    cases h
    rfl
  | boolean b =>
    cases h
    cases b <;> rfl
  | integer i =>
    cases h
    rw [scalarValue?, String.toList_ofList, Number.readInt64?_toString]
    rfl
  | float x =>
    cases h
    rw [scalarValue?, String.toList_ofList, Number.readFloat?_write]
    rfl
  | text s =>
    cases h
    rw [scalarValue?, String.ofList_toList]
  | blob bytes =>
    cases h
    rw [scalarValue?, String.toList_ofList, Text.Base64.decode_encode]
    rfl
  | dateTime t =>
    cases h
    rw [scalarValue?, String.ofList_toList, hinstant t rfl]
    rfl
  | array items => cases h
  | object entries => cases h

theorem ofSymbol?_symbol (m : Marker) : Marker.ofSymbol? m.symbol = some m := by
  cases m <;> rfl

/-! ### Parts with blanks between them -/

section

variable {τ α : Type} {text : τ → List Char} {step : α → PortableReader α} {E : FormatError → Prop}

/-- A step takes a part and the blanks after it. -/
def Takes (step : α → PortableReader α) (part : List Char) (taken taken' : α) : Prop :=
  ∀ stop rest, (step taken).run stop (part ++ rest) = (.ok taken', rest.dropWhile Text.isBlank)

/-- Steps take parts one after the other. -/
inductive Rounds (step : α → PortableReader α) (text : τ → List Char) : α → List τ → α → Prop
  | done {taken : α} : Rounds step text taken [] taken
  | round {taken taken' result : α} {x : τ} {xs : List τ} :
    Takes step (text x) taken taken' → Rounds step text taken' xs result → Rounds step text taken (x :: xs) result

/-- Steps take parts one after the other until one fails. -/
inductive FailingRounds (step : α → PortableReader α) (text : τ → List Char) (E : FormatError → Prop) :
    α → List τ → Prop
  | here {taken : α} {x : τ} {xs : List τ} : (step taken).Fails (text x) E → FailingRounds step text E taken (x :: xs)
  | later {taken taken' : α} {x : τ} {xs : List τ} :
    Takes step (text x) taken taken' → FailingRounds step text E taken' xs → FailingRounds step text E taken (x :: xs)

/-- A part begins with a character that is no blank and does not close what the parts belong to. -/
def StartsPart (close : Char) (part : List Char) : Prop :=
  ∃ c cs, part = c :: cs ∧ Text.isBlank c = false ∧ c ≠ close

theorem StartsPart.append {close : Char} {part : List Char} (h : StartsPart close part) (rest : List Char) :
    StartsPart close (part ++ rest) := by
  obtain ⟨c, cs, rfl, hc⟩ := h
  exact ⟨c, cs ++ rest, rfl, hc⟩

theorem StartsPart.cut {close : Char} {front back : List Char} (h : StartsPart close (front ++ back)) (hfront : front ≠ []) :
    StartsPart close front := by
  obtain ⟨c, cs, hpart, hc⟩ := h
  obtain ⟨d, ds, rfl⟩ := List.exists_cons_of_ne_nil hfront
  obtain ⟨rfl, -⟩ := List.cons.inj hpart
  exact ⟨d, ds, rfl, hc⟩

theorem StartsPart.dropWhile_eq {close : Char} {part : List Char} (h : StartsPart close part) :
    part.dropWhile Text.isBlank = part := by
  obtain ⟨c, cs, rfl, hblank, -⟩ := h
  rw [List.dropWhile_cons, if_neg (Bool.eq_false_iff.1 hblank)]

/-- What follows the first of several parts. -/
theorem intercalate_cons (x : τ) (xs : List τ) : ∃ after,
    [' '].intercalate ((x :: xs).map text) = text x ++ after ∧
      (xs = [] ∧ after = [] ∨ xs ≠ [] ∧ after = ' ' :: [' '].intercalate (xs.map text)) := by
  cases xs with
  | nil => exact ⟨[], by simp, .inl ⟨rfl, rfl⟩⟩
  | cons y ys =>
    refine ⟨_, ?_, .inr ⟨List.cons_ne_nil y ys, rfl⟩⟩
    rw [List.map_cons, List.map_cons, List.intercalate_cons_cons]
    simp

/-- There are no blanks in front of parts. -/
theorem dropWhile_intercalate_cons {close : Char} (hstart : ∀ x, StartsPart close (text x)) {xs : List τ}
    (hxs : xs ≠ []) (rest : List Char) :
    ([' '].intercalate (xs.map text) ++ rest).dropWhile Text.isBlank = [' '].intercalate (xs.map text) ++ rest := by
  obtain ⟨x, xs, rfl⟩ := List.exists_cons_of_ne_nil hxs
  obtain ⟨c, cs, htext, hblank, -⟩ := hstart x
  cases xs <;> simp [htext, hblank]

/-- Before the closing character and between parts there are no blanks but the one that is taken. -/
theorem dropWhile_intercalate {close : Char} (hclose : Text.isBlank close = false)
    (hstart : ∀ x, StartsPart close (text x)) (xs : List τ) (rest : List Char) :
    ([' '].intercalate (xs.map text) ++ close :: rest).dropWhile Text.isBlank =
      [' '].intercalate (xs.map text) ++ close :: rest := by
  by_cases hxs : xs = []
  · simp [hxs, hclose]
  · exact dropWhile_intercalate_cons hstart hxs (close :: rest)

variable {close : Char} {consumes : ∀ (_ : Char) taken, (step taken).Consuming}

/-- A loop over parts calls for a round in front of each of them. -/
theorem head?_filter_of_startsPart {part : List Char} (h : StartsPart close part) (rest : List Char) :
    ∃ c, (part ++ rest).head?.filter (· != close) = some c ∧ part ++ rest ≠ [] := by
  obtain ⟨c, cs, rfl, -, hne⟩ := h
  exact ⟨c, by simp [hne], by simp⟩

/-- A loop takes all parts, and stops in front of the closing character. -/
theorem run_loop_of_rounds (hclose : Text.isBlank close = false) (hstart : ∀ x, StartsPart close (text x)) {taken : α}
    {xs : List τ} {result : α} (h : Rounds step text taken xs result) (stop : Nat) (rest : List Char) :
    (loop (fun input => input.head?.filter (· != close)) (fun _ => step) consumes taken).run stop
      ([' '].intercalate (xs.map text) ++ close :: rest) = (.ok result, close :: rest) := by
  induction h with
  | done => exact run_loop_of_none (by simp)
  | @round taken taken' result x xs htakes _ ih =>
    obtain ⟨after, hparts, hafter⟩ := intercalate_cons x xs
    obtain ⟨c, hnext, hne⟩ := head?_filter_of_startsPart (hstart x) (after ++ close :: rest)
    have hdrop : (after ++ close :: rest).dropWhile Text.isBlank = [' '].intercalate (xs.map text) ++ close :: rest := by
      obtain ⟨rfl, rfl⟩ | ⟨hxs, rfl⟩ := hafter
      · simp [hclose]
      · rw [List.cons_append, List.dropWhile_cons_of_pos (by decide), dropWhile_intercalate_cons hstart hxs]
    rw [hparts, List.append_assoc, run_loop_step hne hnext (htakes stop _), hdrop]
    exact ih

/-- A loop fails at the part at which its step fails. -/
theorem fails_loop_of_failingRounds (hstart : ∀ x, StartsPart close (text x)) {taken : α} {xs : List τ}
    (h : FailingRounds step text E taken xs) :
    (loop (fun input => input.head?.filter (· != close)) (fun _ => step) consumes taken).Fails
      ([' '].intercalate (xs.map text)) E := by
  intro stop rest
  induction h with
  | @here taken x xs hfails =>
    obtain ⟨after, hparts, -⟩ := intercalate_cons x xs
    obtain ⟨c, hnext, hne⟩ := head?_filter_of_startsPart (hstart x) (after ++ rest)
    obtain ⟨e, left, hrun, he⟩ := hfails stop (after ++ rest)
    rw [hparts, List.append_assoc]
    exact ⟨e, left, run_loop_error hne hnext hrun, he⟩
  | @later taken taken' x xs htakes hlater ih =>
    -- the part that fails comes later, so there is another one
    have hxs : xs ≠ [] := by
      rintro rfl
      cases hlater
    obtain ⟨after, hparts, hafter⟩ := intercalate_cons x xs
    obtain ⟨c, hnext, hne⟩ := head?_filter_of_startsPart (hstart x) (after ++ rest)
    obtain ⟨hnil, -⟩ | ⟨-, rfl⟩ := hafter
    · exact absurd hnil hxs
    · rw [hparts, List.append_assoc, run_loop_step hne hnext (htakes stop _), List.cons_append,
        List.dropWhile_cons_of_pos (by decide), dropWhile_intercalate_cons hstart hxs]
      exact ih

end

end SqlFormula.PortableText
