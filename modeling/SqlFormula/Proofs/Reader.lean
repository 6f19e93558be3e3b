import SqlFormula.Reader

/-!
# Runs of readers

What readers do to their input, one equation for each operation, and the rounds of a loop one by one.

## Main definitions

- `Reader.Reads` — a reader takes exactly some symbols, whatever follows them
- `Reader.Fails`, `Reader.FailsWithin` — a reader fails on some symbols, or on all cuts of them
- `Reader.Ensures` — what holds of the results of a reader

## Main statements

- `Reader.run_bind_ok`, `Reader.run_bind_error` — readers one after the other
- `Reader.run_loop_of_none`, `Reader.run_loop_step`, `Reader.run_loop_error` — the rounds of a loop
- `Reader.ensures_loop` — what every round of a loop preserves holds at its end
-/

namespace SqlFormula.Reader

variable {σ ε α β : Type} {stop : Nat} {input rest : List σ}

/-! ### Operations -/

@[simp]
theorem run_pure (a : α) : (pure a : Reader σ ε α).run stop input = (.ok a, input) :=
  rfl

@[simp]
theorem run_succeed (a : α) : (succeed a : Reader σ ε α).run stop input = (.ok a, input) :=
  rfl

@[simp]
theorem run_fail (e : ε) : (fail e : Reader σ ε α).run stop input = (.error e, input) :=
  rfl

@[simp]
theorem run_ahead : (ahead : Reader σ ε (List σ)).run stop input = (.ok input, input) :=
  rfl

@[simp]
theorem run_stop : (Reader.stop : Reader σ ε Nat).run stop input = (.ok stop, input) :=
  rfl

@[simp]
theorem run_peek? : (peek? : Reader σ ε (Option σ)).run stop input = (.ok input.head?, input) :=
  rfl

@[simp]
theorem run_next? : (next? : Reader σ ε (Option σ)).run stop input = (.ok input.head?, input.tail) :=
  rfl

@[simp]
theorem run_skip (n : Nat) : (skip n : Reader σ ε Unit).run stop input = (.ok (), input.drop n) :=
  rfl

@[simp]
theorem run_takeWhile (p : σ → Bool) :
    (takeWhile p : Reader σ ε (List σ)).run stop input = (.ok (input.takeWhile p), input.dropWhile p) :=
  rfl

/-- After a reader that succeeds, the next one goes on where it stopped. -/
theorem run_bind_ok {p : Reader σ ε α} {a : α} (h : p.run stop input = (.ok a, rest)) (f : α → Reader σ ε β) :
    (p >>= f).run stop input = (f a).run stop rest := by
  simp only [bind, andThen, h]

/-- After a reader that fails, nothing more is read. -/
theorem run_bind_error {p : Reader σ ε α} {e : ε} (h : p.run stop input = (.error e, rest)) (f : α → Reader σ ε β) :
    (p >>= f).run stop input = (.error e, rest) := by
  simp only [bind, andThen, h]

/-- Where one reader after another succeeds, the first one did. -/
theorem exists_of_run_bind {p : Reader σ ε α} {f : α → Reader σ ε β} {b : β}
    (h : (p >>= f).run stop input = (.ok b, rest)) :
    ∃ a middle, p.run stop input = (.ok a, middle) ∧ (f a).run stop middle = (.ok b, rest) := by
  cases hp : p.run stop input with
  | mk result middle =>
    cases result with
    | ok a => exact ⟨a, middle, rfl, by rwa [run_bind_ok hp] at h⟩
    | error e =>
      rw [run_bind_error hp] at h
      cases h

theorem run_mapError_ok {p : Reader σ ε α} {a : α} (h : p.run stop input = (.ok a, rest)) (f : ε → ε) :
    (p.mapError f).run stop input = (.ok a, rest) := by
  simp only [mapError, h]

theorem run_mapError_error {p : Reader σ ε α} {e : ε} (h : p.run stop input = (.error e, rest)) (f : ε → ε) :
    (p.mapError f).run stop input = (.error (f e), rest) := by
  simp only [mapError, h]

theorem run_peek?_bind (f : Option σ → Reader σ ε β) :
    (peek? >>= f).run stop input = (f input.head?).run stop input :=
  rfl

/-! ### Loops -/

section

variable {next : List σ → Option β} {step : β → α → Reader σ ε α} {consumes : ∀ b a, (step b a).Consuming}
  {a : α} {b : β}

theorem run_loop_of_none (h : next input = none) : (loop next step consumes a).run stop input = (.ok a, input) := by
  show loopRun next step consumes stop a input = _
  rw [loopRun]
  split
  · rfl
  · rw [h]

theorem run_loop_step {a' : α} (hne : input ≠ []) (hnext : next input = some b)
    (hstep : (step b a).run stop input = (.ok a', rest)) :
    (loop next step consumes a).run stop input = (loop next step consumes a').run stop rest := by
  show loopRun next step consumes stop a input = loopRun next step consumes stop a' rest
  rw [loopRun, dif_neg hne, hnext]
  dsimp only
  split
  · next heq =>
    rw [hstep] at heq
    cases heq
    rfl
  · next heq =>
    rw [hstep] at heq
    cases heq

theorem run_loop_error {e : ε} (hne : input ≠ []) (hnext : next input = some b)
    (hstep : (step b a).run stop input = (.error e, rest)) :
    (loop next step consumes a).run stop input = (.error e, rest) := by
  show loopRun next step consumes stop a input = _
  rw [loopRun, dif_neg hne, hnext]
  dsimp only
  split
  · next heq =>
    rw [hstep] at heq
    cases heq
  · next heq =>
    rw [hstep] at heq
    cases heq
    rfl

end

/-! ### Readers of known symbols -/

/-- A reader takes exactly some symbols and gives a result for them, whatever follows. -/
def Reads (p : Reader σ ε α) (symbols : List σ) (a : α) : Prop :=
  ∀ stop rest, p.run stop (symbols ++ rest) = (.ok a, rest)

theorem Reads.pure (a : α) : (Pure.pure a : Reader σ ε α).Reads [] a :=
  fun _ _ => rfl

theorem Reads.bind {p : Reader σ ε α} {f : α → Reader σ ε β} {xs ys : List σ} {a : α} {b : β} (hp : p.Reads xs a)
    (hf : (f a).Reads ys b) : (p >>= f).Reads (xs ++ ys) b := by
  intro stop rest
  rw [List.append_assoc, run_bind_ok (hp stop (ys ++ rest))]
  exact hf stop rest

/-- A reader of the next symbol takes one. -/
theorem Reads.next?_bind {f : Option σ → Reader σ ε β} {s : σ} {xs : List σ} {b : β} (hf : (f (some s)).Reads xs b) :
    (next? >>= f).Reads (s :: xs) b :=
  fun stop rest => hf stop rest

theorem Reads.map {p : Reader σ ε α} {f : α → Reader σ ε β} {xs : List σ} {a : α} {b : β} (hp : p.Reads xs a)
    (hf : f a = Pure.pure b) : (p >>= f).Reads xs b := by
  intro stop rest
  rw [run_bind_ok (hp stop rest), hf]
  rfl

/-- A reader fails on some symbols with an error of some kind, whatever follows. -/
def Fails (p : Reader σ ε α) (symbols : List σ) (E : ε → Prop) : Prop :=
  ∀ stop rest, ∃ e left, p.run stop (symbols ++ rest) = (.error e, left) ∧ E e

section

variable {E : ε → Prop} {p : Reader σ ε α} {f : α → Reader σ ε β} {xs ys : List σ} {a : α}

theorem Fails.bind (hp : p.Fails xs E) : (p >>= f).Fails xs E := by
  intro stop rest
  obtain ⟨e, left, hrun, he⟩ := hp stop rest
  exact ⟨e, left, run_bind_error hrun f, he⟩

theorem Reads.bind_fails (hp : p.Reads xs a) (hf : (f a).Fails ys E) : (p >>= f).Fails (xs ++ ys) E := by
  intro stop rest
  rw [List.append_assoc, run_bind_ok (hp stop (ys ++ rest))]
  exact hf stop rest

theorem Fails.next?_bind {f : Option σ → Reader σ ε β} {s : σ} {xs : List σ} (hf : (f (some s)).Fails xs E) :
    (next? >>= f).Fails (s :: xs) E :=
  fun stop rest => hf stop rest

theorem Fails.mono {E' : ε → Prop} (hp : p.Fails xs E) (h : ∀ e, E e → E' e) : p.Fails xs E' := by
  intro stop rest
  obtain ⟨e, left, hrun, he⟩ := hp stop rest
  exact ⟨e, left, hrun, h e he⟩

theorem Fails.append (hp : p.Fails xs E) (ys : List σ) : p.Fails (xs ++ ys) E := by
  intro stop rest
  rw [List.append_assoc]
  exact hp stop (ys ++ rest)

end

/-! ### Readers of symbols that break off -/

/-- A reader fails where the input ends at once. -/
def FailsAtEnd (p : Reader σ ε α) (E : ε → Prop) : Prop :=
  ∀ stop, ∃ e left, p.run stop [] = (.error e, left) ∧ E e

/-- A reader fails wherever the symbols break off. -/
def FailsWithin (p : Reader σ ε α) (symbols : List σ) (E : ε → Prop) : Prop :=
  ∀ stop front back, front ++ back = symbols → back ≠ [] → ∃ e left, p.run stop front = (.error e, left) ∧ E e

section

variable {E : ε → Prop} {p : Reader σ ε α} {f : α → Reader σ ε β} {xs ys : List σ} {a : α}

theorem FailsWithin.bind_left (hp : p.FailsWithin xs E) (f : α → Reader σ ε β) : (p >>= f).FailsWithin xs E := by
  intro stop front back hcut hback
  obtain ⟨e, left, hrun, he⟩ := hp stop front back hcut hback
  exact ⟨e, left, run_bind_error hrun f, he⟩

/-- What breaks off does so within its first part, or behind it. -/
theorem cut_append {front back : List σ} (h : front ++ back = xs ++ ys) :
    (∃ more, front ++ more = xs ∧ more ≠ []) ∨ ∃ front', front = xs ++ front' ∧ front' ++ back = ys := by
  obtain ⟨more, hxs, hys⟩ | ⟨front', rfl, hys⟩ := List.append_eq_append_iff.1 h
  · by_cases hmore : more = []
    · rw [hmore, List.append_nil] at hxs
      rw [hmore, List.nil_append] at hys
      exact .inr ⟨[], by rw [hxs, List.append_nil], by rw [List.nil_append, hys]⟩
    · exact .inl ⟨more, hxs.symm, hmore⟩
  · exact .inr ⟨front', rfl, hys.symm⟩

theorem FailsWithin.bind (hp : p.FailsWithin xs E) (hreads : p.Reads xs a) (hf : (f a).FailsWithin ys E) :
    (p >>= f).FailsWithin (xs ++ ys) E := by
  intro stop front back hcut hback
  obtain ⟨more, hxs, hmore⟩ | ⟨front', rfl, hys⟩ := cut_append hcut
  · exact hp.bind_left f stop front more hxs hmore
  · rw [run_bind_ok (hreads stop front')]
    exact hf stop front' back hys hback

theorem FailsWithin.next?_bind {f : Option σ → Reader σ ε β} {s : σ} (hnone : (f none).FailsAtEnd E)
    (hf : (f (some s)).FailsWithin xs E) : (next? >>= f).FailsWithin (s :: xs) E := by
  intro stop front back hcut hback
  cases front with
  | nil => exact hnone stop
  | cons s' front =>
    obtain ⟨rfl, hrest⟩ := List.cons.inj hcut
    exact hf stop front back hrest hback

end

/-! ### Results of readers -/

/-- Whenever a reader succeeds, its result and what it leaves satisfy `Q`. -/
def Ensures (p : Reader σ ε α) (Q : α → List σ → Prop) : Prop :=
  ∀ stop input a rest, p.run stop input = (.ok a, rest) → Q a rest

section

variable {p : Reader σ ε α} {f : α → Reader σ ε β} {P : α → List σ → Prop} {Q : β → List σ → Prop} {b : β}

theorem ensures_pure (h : ∀ rest, Q b rest) : (Pure.pure b : Reader σ ε β).Ensures Q := by
  intro stop input b' rest hrun
  cases hrun
  exact h _

theorem ensures_fail (e : ε) : (fail e : Reader σ ε β).Ensures Q := by
  intro stop input b rest hrun
  cases hrun

theorem Ensures.mono {P' : α → List σ → Prop} (hp : p.Ensures P) (h : ∀ a rest, P a rest → P' a rest) : p.Ensures P' :=
  fun stop input a rest hrun => h a rest (hp stop input a rest hrun)

theorem Ensures.bind (hp : p.Ensures P) (hf : ∀ a rest, P a rest → (f a).Ensures Q) : (p >>= f).Ensures Q := by
  intro stop input b left hrun
  obtain ⟨a, rest, ha, hb⟩ := exists_of_run_bind hrun
  exact hf a rest (hp stop input a rest ha) stop rest b left hb

/-- The first reader may do anything. -/
theorem ensures_bind (hf : ∀ a, (f a).Ensures Q) : (p >>= f).Ensures Q :=
  Ensures.bind (P := fun _ _ => True) (fun _ _ _ _ _ => trivial) fun a _ _ => hf a

theorem Ensures.map (hp : p.Ensures P) {g : α → β} (h : ∀ a rest, P a rest → Q (g a) rest) :
    (p >>= fun a => Pure.pure (g a)).Ensures Q := by
  intro stop input b left hrun
  obtain ⟨a, rest, ha, hb⟩ := exists_of_run_bind hrun
  cases hb
  exact h a _ (hp stop input a _ ha)

theorem Ensures.mapError (hp : p.Ensures P) (g : ε → ε) : (p.mapError g).Ensures P := by
  intro stop input a rest hrun
  simp only [Reader.mapError] at hrun
  split at hrun
  · next hok =>
    cases hrun
    exact hp _ _ _ _ hok
  · cases hrun

theorem Ensures.and {P' : α → List σ → Prop} (hp : p.Ensures P) (hp' : p.Ensures P') :
    p.Ensures fun a rest => P a rest ∧ P' a rest :=
  fun stop input a rest hrun => ⟨hp stop input a rest hrun, hp' stop input a rest hrun⟩

/-- What the reader gives is what a computation gave. -/
theorem ensures_ofExcept {x : Except ε β} (h : ∀ b, x = .ok b → ∀ rest, Q b rest) :
    (ofExcept x : Reader σ ε β).Ensures Q := by
  cases x with
  | ok b => exact ensures_pure (h b rfl)
  | error e => exact ensures_fail e

section

variable {next : List σ → Option β} {step : β → α → Reader σ ε α} {consumes : ∀ b a, (step b a).Consuming} {a : α}
  {I : α → List σ → Prop}

/-- What holds at the start of a loop and is preserved by every round holds at its end, where no round is called for. -/
theorem holds_of_run_loop {stop : Nat} {input rest : List σ} {a' : α} (hstart : I a input)
    (hstep : ∀ b a input, I a input → next input = some b → (step b a).Ensures I)
    (hrun : (loop next step consumes a).run stop input = (.ok a', rest)) :
    I a' rest ∧ (rest = [] ∨ next rest = none) := by
  have hrounds : ∀ a input, I a input → loopRun next step consumes stop a input = (.ok a', rest) →
      I a' rest ∧ (rest = [] ∨ next rest = none) := by
    intro a input
    fun_induction loopRun next step consumes stop a input with
    | case1 a =>
      rintro hI ⟨⟩
      exact ⟨hI, .inl rfl⟩
    | case2 a input _ hnone =>
      rintro hI ⟨⟩
      exact ⟨hI, .inr hnone⟩
    | case3 a input _ b hnext a'' rest' hok ih => exact fun hI => ih (hstep b a input hI hnext stop input a'' rest' hok)
    | case4 =>
      intro _ h
      cases h
  exact hrounds a input hstart hrun

theorem ensures_loop (hstart : ∀ input, I a input)
    (hstep : ∀ b a input, I a input → next input = some b → (step b a).Ensures I) :
    (loop next step consumes a).Ensures fun a rest => I a rest ∧ (rest = [] ∨ next rest = none) :=
  fun _ input _ _ hrun => holds_of_run_loop (hstart input) hstep hrun

end

/-- Each item satisfies what the reader of items ensures. -/
theorem Ensures.sepBy1 {isSeparator : σ → Bool} {P : α → Prop} (hp : p.Ensures fun a _ => P a) :
    (sepBy1 isSeparator p).Ensures fun as _ => ∀ a ∈ as, P a := by
  rw [Reader.sepBy1]
  refine hp.bind fun first _ hfirst => ?_
  refine Ensures.map (ensures_loop (I := fun others _ => ∀ a ∈ others, P a) (fun _ => List.forall_mem_nil _) ?_)
    fun others _ h => List.forall_mem_cons.2 ⟨hfirst, fun a ha => h.1 a (List.mem_reverse.1 ha)⟩
  intro _ others _ hI _
  exact ensures_bind fun _ => hp.map fun a _ ha => List.forall_mem_cons.2 ⟨ha, hI⟩

/-- There is at least one item. -/
theorem ensures_sepBy1_ne_nil {isSeparator : σ → Bool} : (sepBy1 isSeparator p).Ensures fun as _ => as ≠ [] :=
  ensures_bind fun _ => ensures_bind fun _ => ensures_pure fun _ => List.cons_ne_nil _ _

end

end SqlFormula.Reader
