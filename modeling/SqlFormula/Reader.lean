/-!
# Readers

A reader takes symbols off the front of a list and answers with a value or an error, together with
the symbols that it left. What it leaves is always a suffix of what it was given, also when it fails;
this is part of the type, so it holds of every grammar built from the operations below.

The statement grammar reads tokens, and the notation for values reads characters.

## Main definitions

- `Reader σ ε α` — readers of symbols `σ` with errors `ε` and results `α`
- `Reader.loop` — repetition for as long as the next symbols call for it
- `Reader.Consuming` — a reader that takes at least one symbol whenever it succeeds on some input;
  the steps of a loop have to, and so every loop ends
-/

namespace SqlFormula

/-- A reader: `run stop input` reads from the front of `input`, the rest of a text that ends at byte
offset `stop`. -/
structure Reader (σ ε α : Type) where
  run : Nat → List σ → Except ε α × List σ
  suffix : ∀ stop input, (run stop input).2 <:+ input

namespace Reader

variable {σ ε α β : Type}

/-- Succeeds without reading. -/
def succeed (a : α) : Reader σ ε α where
  run _ input := (.ok a, input)
  suffix _ input := List.suffix_refl input

/-- Fails without reading. -/
def fail (e : ε) : Reader σ ε α where
  run _ input := (.error e, input)
  suffix _ input := List.suffix_refl input

/-- Reads with `p`, then with the reader that its result gives. -/
def andThen (p : Reader σ ε α) (f : α → Reader σ ε β) : Reader σ ε β where
  run stop input :=
    match p.run stop input with
    | (.ok a, rest) => (f a).run stop rest
    | (.error e, rest) => (.error e, rest)
  suffix stop input := by
    have hp := p.suffix stop input
    split
    · next a rest h => exact ((f a).suffix stop rest).trans (by simpa [h] using hp)
    · next e rest h => simpa [h] using hp

instance : Monad (Reader σ ε) where
  pure := succeed
  bind := andThen

/-- Succeeds or fails as a computation did, without reading. -/
def ofExcept : Except ε α → Reader σ ε α
  | .ok a => succeed a
  | .error e => fail e

/-- Reads as `p` does, with `f` applied to its error. -/
def mapError (f : ε → ε) (p : Reader σ ε α) : Reader σ ε α where
  run stop input :=
    match p.run stop input with
    | (.ok a, rest) => (.ok a, rest)
    | (.error e, rest) => (.error (f e), rest)
  suffix stop input := by
    have hp := p.suffix stop input
    split <;> next h => simpa [h] using hp

/-- The symbols ahead, which stay. -/
def ahead : Reader σ ε (List σ) where
  run _ input := (.ok input, input)
  suffix _ input := List.suffix_refl input

/-- The byte offset at which the whole text ends. -/
def stop : Reader σ ε Nat where
  run stop input := (.ok stop, input)
  suffix _ input := List.suffix_refl input

/-- The next symbol, which stays. -/
def peek? : Reader σ ε (Option σ) where
  run _ input := (.ok input.head?, input)
  suffix _ input := List.suffix_refl input

/-- Takes the next symbol, if there is one. -/
def next? : Reader σ ε (Option σ) where
  run _ input := (.ok input.head?, input.tail)
  suffix _ input := List.tail_suffix input

/-- Takes `n` symbols, or as many as there are. -/
def skip (n : Nat) : Reader σ ε Unit where
  run _ input := (.ok (), input.drop n)
  suffix _ input := List.drop_suffix n input

/-- Takes the symbols up to the first that does not satisfy `p`. -/
def takeWhile (p : σ → Bool) : Reader σ ε (List σ) where
  run _ input := (.ok (input.takeWhile p), input.dropWhile p)
  suffix _ _ := List.dropWhile_suffix p

/-- Succeeding on some input takes at least one symbol of it. -/
def Consuming (p : Reader σ ε α) : Prop :=
  ∀ stop input a, input ≠ [] → (p.run stop input).1 = .ok a →
    (p.run stop input).2.length < input.length

theorem Consuming.fail (e : ε) : (Reader.fail e : Reader σ ε α).Consuming := by
  intro stop input a _ h
  simp [Reader.fail] at h

theorem Consuming.next? : (Reader.next? : Reader σ ε (Option σ)).Consuming := by
  intro stop input a h _
  cases input with
  | nil => exact absurd rfl h
  | cons s rest => simp [Reader.next?]

theorem Consuming.skip (n : Nat) : (Reader.skip (n + 1) : Reader σ ε Unit).Consuming := by
  intro stop input a h _
  have := List.length_pos_iff.2 h
  simp only [Reader.skip, List.length_drop]
  omega

theorem length_run_le (p : Reader σ ε α) (stop : Nat) (input : List σ) :
    (p.run stop input).2.length ≤ input.length :=
  (p.suffix stop input).length_le

/-- A reader that begins with a consuming one is consuming. -/
theorem Consuming.bind_left {p : Reader σ ε α} (hp : p.Consuming) (f : α → Reader σ ε β) :
    (p >>= f).Consuming := by
  intro stop input b hne h
  simp only [bind, andThen] at h ⊢
  have hlt := hp stop input
  split
  · next a rest hr =>
    rw [hr] at hlt
    exact Nat.lt_of_le_of_lt ((f a).length_run_le stop rest) (hlt a hne rfl)
  · next e rest hr => simp [hr] at h

/-- A reader that ends with a consuming one is consuming. -/
theorem Consuming.bind_right {p : Reader σ ε α} {f : α → Reader σ ε β}
    (hf : ∀ a, (f a).Consuming) : (p >>= f).Consuming := by
  intro stop input b hne h
  simp only [bind, andThen] at h ⊢
  have hle := p.length_run_le stop input
  split
  · next a rest hr =>
    simp only [hr] at h hle
    by_cases hrest : rest = []
    · have := List.length_pos_iff.2 hne
      have := (f a).length_run_le stop rest
      subst hrest
      simp only [List.length_nil] at this
      omega
    · exact Nat.lt_of_lt_of_le (hf a stop rest b hrest h) hle
  · next e rest hr => simp [hr] at h

theorem Consuming.mapError {p : Reader σ ε α} (hp : p.Consuming) (f : ε → ε) :
    (p.mapError f).Consuming := by
  intro stop input a hne h
  simp only [Reader.mapError] at h ⊢
  have := hp stop input
  split
  · next a' rest hr =>
    rw [hr] at this
    exact this a' hne rfl
  · next e rest hr => simp [hr] at h

/-- The run of a loop. -/
def loopRun (next : List σ → Option β) (step : β → α → Reader σ ε α)
    (consumes : ∀ b a, (step b a).Consuming) (stop : Nat) (a : α) (input : List σ) :
    Except ε α × List σ :=
  if _hne : input = [] then (.ok a, input)
  else match next input with
    | none => (.ok a, input)
    | some b =>
      match _h : (step b a).run stop input with
      | (.ok a', rest) => loopRun next step consumes stop a' rest
      | (.error e, rest) => (.error e, rest)
termination_by input.length
decreasing_by
  have := consumes b a stop input a' _hne (by rw [_h])
  rwa [_h] at this

theorem loopRun_suffix (next : List σ → Option β) (step : β → α → Reader σ ε α)
    (consumes : ∀ b a, (step b a).Consuming) (stop : Nat) (a : α) (input : List σ) :
    (loopRun next step consumes stop a input).2 <:+ input := by
  fun_induction loopRun next step consumes stop a input with
  | case1 => exact List.suffix_refl _
  | case2 => exact List.suffix_refl _
  | case3 a input _ b _ a' rest h ih =>
    exact ih.trans (by simpa [h] using (step b a).suffix stop input)
  | case4 a input _ b _ e rest h =>
    simpa [h] using (step b a).suffix stop input

/-- Repeats `step` for as long as `next` of the symbols ahead calls for it, and ends where there are no
more symbols or `next` is `none`. -/
def loop (next : List σ → Option β) (step : β → α → Reader σ ε α)
    (consumes : ∀ b a, (step b a).Consuming) (a : α) : Reader σ ε α where
  run stop input := loopRun next step consumes stop a input
  suffix stop input := loopRun_suffix next step consumes stop a input

/-- Reads one or more items with a separator between them. -/
def sepBy1 (isSeparator : σ → Bool) (item : Reader σ ε α) : Reader σ ε (List α) := do
  let first ← item
  let others ← loop (fun input => (input.head?.filter isSeparator))
    (fun _ others => do
      skip 1
      let another ← item
      pure (another :: others))
    (fun _ _ => (Consuming.skip 0).bind_left _) []
  pure (first :: others.reverse)

end Reader

end SqlFormula
