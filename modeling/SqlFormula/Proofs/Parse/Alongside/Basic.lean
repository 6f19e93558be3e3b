import SqlFormula.Proofs.Parse.Takes
import SqlFormula.Proofs.Token.Joining

/-!
# The same tokens in two texts

The same tokens can make up one text and stand in a longer one, further on and in front of a semicolon or a closing
parenthesis. A reader reads alongside another if it does with them in the first text what the other does with them in
the second. Where the tokens are followed by a closing parenthesis, this is only about readers that succeed: a text that
breaks off after `f(` can be completed by it.

## Main definitions

- `Parser.Relocation` — where the same tokens stand in two texts
- `Parser.Relocation.Alongside` — a reader does in the first text what another does in the second

## Main statements

- `Parser.Relocation.Alongside.bind`, `Parser.Relocation.alongside_loop` — readers one after the other, and repetition
- `Parser.Relocation.Alongside.parenthesized`, `Parser.Relocation.Alongside.commaList`
-/

namespace SqlFormula

/-! ### Tokens further on -/

namespace Token

variable {d : Nat} {t : Token}

@[simp]
theorem kind_shift : (t.shift d).kind = t.kind :=
  rfl

@[simp]
theorem text_shift : (t.shift d).text = t.text :=
  rfl

@[simp]
theorem offset_shift : (t.shift d).offset = t.offset + d :=
  rfl

@[simp]
theorem isSymbol_shift (s : String) : (t.shift d).isSymbol s = t.isSymbol s :=
  rfl

@[simp]
theorem keyword?_shift : (t.shift d).keyword? = t.keyword? :=
  rfl

@[simp]
theorem builtin?_shift : (t.shift d).builtin? = t.builtin? :=
  rfl

@[simp]
theorem isIdentifier_shift : (t.shift d).isIdentifier = t.isIdentifier :=
  rfl

/-- A token that ends whatever is read: a semicolon or a closing parenthesis. -/
def IsBoundary (t : Token) : Prop :=
  t.isSymbol ";" = true ∨ t.isSymbol ")" = true

namespace IsBoundary

theorem kind_eq (h : t.IsBoundary) : t.kind = .symbol := by
  simp only [IsBoundary, isSymbol, Bool.and_eq_true, beq_iff_eq] at h
  exact h.elim And.left And.left

theorem text_eq (h : t.IsBoundary) : t.text = ";" ∨ t.text = ")" := by
  simp only [IsBoundary, isSymbol, Bool.and_eq_true, beq_iff_eq] at h
  exact h.imp And.right And.right

theorem keyword?_eq (h : t.IsBoundary) : t.keyword? = none := by
  rw [keyword?, h.kind_eq]

theorem isIdentifier_eq (h : t.IsBoundary) : t.isIdentifier = false := by
  rw [isIdentifier, h.kind_eq]

theorem isSymbol_eq {s : String} (h : t.IsBoundary) (hs : s ≠ ";") (hs' : s ≠ ")") : t.isSymbol s = false := by
  rcases h.text_eq with htext | htext
  · simp [isSymbol, htext, hs.symm]
  · simp [isSymbol, htext, hs'.symm]

end IsBoundary

theorem isSymbol_closing_of_semicolon (h : t.isSymbol ";" = true) : t.isSymbol ")" = false := by
  simp only [isSymbol, Bool.and_eq_true, beq_iff_eq] at h
  simp [isSymbol, h.2]

end Token

namespace Parser

open Reader

variable {α β γ : Type}

/-! ### Failing -/

/-- A reader fails on some tokens. -/
def Rejects (p : Parser α) (ts : List Token) : Prop :=
  ∀ stop, ∃ e left, p.run stop ts = (.error e, left)

section

variable {p : Parser α} {f : α → Parser β} {ts : List Token}

theorem rejects_fail (e : ParseError) : Rejects (fail e : Parser α) ts :=
  fun _ => ⟨e, ts, rfl⟩

theorem Rejects.bind (h : p.Rejects ts) (f : α → Parser β) : (p >>= f).Rejects ts := by
  intro stop
  obtain ⟨e, left, hrun⟩ := h stop
  exact ⟨e, left, run_bind_error hrun f⟩

theorem rejects_bind (rest : List Token) (hp : ∀ stop, ∃ a, p.run stop ts = (.ok a, rest) ∧ (f a).Rejects rest) :
    (p >>= f).Rejects ts := by
  intro stop
  obtain ⟨a, hrun, hf⟩ := hp stop
  rw [run_bind_ok hrun]
  exact hf stop

theorem rejects_endOfInput (expected : String) : (endOfInput expected : Parser α).Rejects ts :=
  fun _ => ⟨_, ts, rfl⟩

end

theorem run_expectSymbol (s : String) (stop : Nat) (t : Token) (ts : List Token) :
    (expectSymbol s).run stop (t :: ts) =
      if t.isSymbol s then (.ok t.offset, ts) else (.error (unexpected t ("'" ++ s ++ "'")), t :: ts) := by
  have hoffset : Parser.offset.run stop (t :: ts) = (.ok t.offset, t :: ts) := rfl
  rw [expectSymbol, run_bind_ok hoffset, run_bind_ok (run_eatSymbol s stop t ts)]
  cases t.isSymbol s <;> rfl

/-! ### The same tokens in two texts -/

/-- The same tokens end one text, and stand in another `distance` bytes further on, in front of other tokens or at the
end. -/
structure Relocation where
  /-- Where the first text ends. -/
  stop : Nat
  /-- Where the second text ends. -/
  farStop : Nat
  distance : Nat
  /-- What comes after the tokens in the second text. -/
  tail : List Token
  boundary : ∀ t ∈ tail.head?, t.IsBoundary
  farStop_eq : tail = [] → farStop = stop + distance

namespace Relocation

variable (r : Relocation)

/-- The tokens in the second text. -/
def far (ts : List Token) : List Token :=
  ts.map (Token.shift r.distance) ++ r.tail

/-- A statement ends with the tokens, also in the second text. -/
def EndsStatement : Prop :=
  ∀ t ∈ r.tail.head?, t.isSymbol ";" = true

/-- The same place in the second text. Only where nothing follows, the ends of the tokens are the same place. -/
def SamePlace (place farPlace : Nat) : Prop :=
  r.tail = [] → farPlace = place + r.distance

/-- The same error further on. What comes after the tokens can be what is wrong, instead of the end of the text. -/
def SameError (e far : ParseError) : Prop :=
  r.tail = [] → far.name = e.name ∧ far.offset = e.offset + r.distance

/-- The outcomes for the same tokens in both texts. -/
inductive Agree : Except ParseError α × List Token → Except ParseError α × List Token → Prop
  | ok (a : α) (ts : List Token) : Agree (.ok a, ts) (.ok a, r.far ts)
  | error {e : ParseError} {ts : List Token} {outcome : Except ParseError α × List Token}
      (h : r.EndsStatement → ∃ far left, outcome = (.error far, left) ∧ r.SameError e far) : Agree (.error e, ts) outcome

/-- What `p` does with some tokens in the first text, `p'` does with them in the second. -/
def At (ts : List Token) (p p' : Parser α) : Prop :=
  r.Agree (p.run r.stop ts) (p'.run r.farStop (r.far ts))

/-- What `p` does in the first text, `p'` does with the same tokens in the second. -/
def Alongside (p p' : Parser α) : Prop :=
  ∀ ts, r.At ts p p'

/-- The tokens end the second text as well, or a boundary follows. -/
theorem tail_cases : r.tail = [] ∨ ∃ t rest, r.tail = t :: rest ∧ t.IsBoundary := by
  cases h : r.tail with
  | nil => exact .inl rfl
  | cons t rest => exact .inr ⟨t, rest, rfl, r.boundary t (by rw [h]; rfl)⟩

theorem far_nil : r.far [] = r.tail :=
  rfl

theorem far_cons (t : Token) (ts : List Token) : r.far (t :: ts) = t.shift r.distance :: r.far ts :=
  rfl

variable {r} {ts : List Token} {t : Token} {a : α} {p p' : Parser α} {f f' : α → Parser β}

theorem samePlace_offset (t : Token) : r.SamePlace t.offset (t.shift r.distance).offset :=
  fun _ => rfl

theorem sameError_unexpected (t : Token) (expected : String) :
    r.SameError (unexpected t expected) (unexpected (t.shift r.distance) expected) := by
  intro _
  rw [unexpected, unexpected, Token.isSymbol_shift]
  split <;> exact ⟨rfl, rfl⟩

/-- A property of the next token that no boundary has is the same in both texts. -/
theorem head?_far_bind {g : Token → Option β} (hshift : ∀ t, g (t.shift r.distance) = g t)
    (hboundary : ∀ t : Token, t.IsBoundary → g t = none) (ts : List Token) :
    (r.far ts).head?.bind g = ts.head?.bind g := by
  cases ts with
  | nil =>
    rcases r.tail_cases with htail | ⟨t, rest, htail, ht⟩
    · rw [far_nil, htail]
    · rw [far_nil, htail]
      exact hboundary t ht
  | cons t ts => exact hshift t

/-- The next token, if it is of some kind that no boundary is. -/
theorem head?_filter_far {keep : Token → Bool} (hshift : ∀ t, keep (t.shift r.distance) = keep t)
    (hboundary : ∀ t : Token, t.IsBoundary → keep t = false) (ts : List Token) :
    (r.far ts).head?.filter keep = (ts.head?.filter keep).map (Token.shift r.distance) := by
  cases ts with
  | nil =>
    rcases r.tail_cases with htail | ⟨t, rest, htail, ht⟩
    · rw [far_nil, htail]
      rfl
    · rw [far_nil, htail, List.head?_cons, Option.filter_some, hboundary t ht]
      rfl
  | cons t ts =>
    rw [far_cons, List.head?_cons, List.head?_cons, Option.filter_some, Option.filter_some, hshift]
    split <;> rfl

theorem head?_filter_isComma_far (ts : List Token) :
    (r.far ts).head?.filter isComma = (ts.head?.filter isComma).map (Token.shift r.distance) :=
  head?_filter_far (fun _ => rfl) (fun _ ht => ht.isSymbol_eq (by decide) (by decide)) ts

/-! ### Readers one after the other -/

theorem at_pure (a : α) : r.At ts (pure a) (pure a) :=
  .ok a ts

theorem alongside_pure (a : α) : r.Alongside (pure a) (pure a) :=
  fun _ => at_pure a

theorem at_fail {e e' : ParseError} (h : r.SameError e e') : r.At ts (fail e : Parser α) (fail e') :=
  .error fun _ => ⟨e', r.far ts, rfl, h⟩

/-- In front of other tokens it only counts that both readers fail. -/
theorem at_of_rejects (htail : r.tail ≠ []) (hp : p.Rejects ts) (hp' : r.EndsStatement → p'.Rejects (r.far ts)) :
    r.At ts p p' := by
  obtain ⟨e, left, hrun⟩ := hp r.stop
  rw [At, hrun]
  refine .error fun hends => ?_
  obtain ⟨far, farLeft, hfar⟩ := hp' hends r.farStop
  exact ⟨far, farLeft, hfar, fun hnil => absurd hnil htail⟩

/-- A reader that fails at the end of the first text can go on in the second one, if that does not end a statement. -/
theorem at_of_not_endsStatement (hends : ¬r.EndsStatement) (hp : p.Rejects ts) : r.At ts p p' := by
  obtain ⟨e, left, hrun⟩ := hp r.stop
  rw [At, hrun]
  exact .error fun h => absurd h hends

theorem At.bind (hp : r.At ts p p') (hf : ∀ a, r.Alongside (f a) (f' a)) : r.At ts (p >>= f) (p' >>= f') := by
  rw [At] at hp ⊢
  generalize hnear : p.run r.stop ts = near at hp
  generalize hfar : p'.run r.farStop (r.far ts) = far at hp
  cases hp with
  | ok a rest =>
    rw [run_bind_ok hnear, run_bind_ok hfar]
    exact hf a rest
  | error h =>
    rw [run_bind_error hnear]
    refine .error fun hends => ?_
    obtain ⟨e', left, rfl, he⟩ := h hends
    exact ⟨e', left, run_bind_error hfar f', he⟩

theorem Alongside.bind (hp : r.Alongside p p') (hf : ∀ a, r.Alongside (f a) (f' a)) :
    r.Alongside (p >>= f) (p' >>= f') :=
  fun ts => (hp ts).bind hf

theorem Alongside.map (hp : r.Alongside p p') (g : α → β) :
    r.Alongside (p >>= fun a => pure (g a)) (p' >>= fun a => pure (g a)) :=
  hp.bind fun a => alongside_pure (g a)

theorem at_ite {c : Prop} [Decidable c] {q q' : Parser α} (hp : c → r.At ts p p') (hq : ¬c → r.At ts q q') :
    r.At ts (if c then p else q) (if c then p' else q') := by
  split
  · next h => exact hp h
  · next h => exact hq h

/-- What succeeds in the first text succeeds in the second. -/
theorem Alongside.run_ok {rest : List Token} (h : r.Alongside p p') (hrun : p.run r.stop ts = (.ok a, rest)) :
    p'.run r.farStop (r.far ts) = (.ok a, r.far rest) := by
  have hts := h ts
  rw [At, hrun] at hts
  generalize p'.run r.farStop (r.far ts) = outcome at hts
  cases hts
  rfl

/-- What fails in the first text fails in the second, if the tokens end a statement there. -/
theorem Alongside.run_error {rest : List Token} {e : ParseError} (h : r.Alongside p p') (hends : r.EndsStatement)
    (hrun : p.run r.stop ts = (.error e, rest)) : ∃ e' left, p'.run r.farStop (r.far ts) = (.error e', left) := by
  have hts := h ts
  rw [At, hrun] at hts
  generalize p'.run r.farStop (r.far ts) = outcome at hts
  cases hts with
  | error hfar =>
    obtain ⟨e', left, rfl, -⟩ := hfar hends
    exact ⟨e', left, rfl⟩

theorem alongside_ite {c : Prop} [Decidable c] {q q' : Parser α} (hp : c → r.Alongside p p')
    (hq : ¬c → r.Alongside q q') : r.Alongside (if c then p else q) (if c then p' else q') :=
  fun ts => at_ite (fun h => hp h ts) fun h => hq h ts

/-! ### The next token -/

theorem at_skip_bind {f f' : Unit → Parser β} (h : r.At ts (f ()) (f' ())) :
    r.At (t :: ts) (skip 1 >>= f) (skip 1 >>= f') :=
  h

/-- The next token, of which the same readers are made in both texts; where the first text ends, the second one goes on
with a boundary or ends as well. -/
theorem alongside_peek?_bind {f f' : Option Token → Parser β}
    (hsome : ∀ t ts, r.At (t :: ts) (f (some t)) (f' (some (t.shift r.distance))))
    (hnone : r.tail = [] → r.At [] (f none) (f' none))
    (hboundary : ∀ t : Token, r.tail ≠ [] → t ∈ r.tail.head? → t.IsBoundary → r.At [] (f none) (f' (some t))) :
    r.Alongside (peek? >>= f) (peek? >>= f') := by
  intro ts
  cases ts with
  | nil =>
    rcases r.tail_cases with htail | ⟨t, rest, htail, ht⟩
    · have h := hnone htail
      rwa [At, far_nil, htail] at h ⊢
    · have h := hboundary t (by rw [htail]; nofun) (by rw [htail]; rfl) ht
      rwa [At, far_nil, htail] at h ⊢
  | cons t ts => exact hsome t ts

theorem alongside_ahead_bind {f f' : List Token → Parser β} (h : ∀ ts, r.At ts (f ts) (f' (r.far ts))) :
    r.Alongside (ahead >>= f : Parser β) (ahead >>= f') :=
  fun ts => h ts

theorem at_endOfInput (htail : r.tail = []) (expected : String) :
    r.At ts (endOfInput expected : Parser α) (endOfInput expected) :=
  .error fun _ => ⟨_, r.far ts, rfl, fun _ => ⟨rfl, r.farStop_eq htail⟩⟩

theorem alongside_errorAtFront (expected : String) :
    r.Alongside (errorAtFront expected : Parser α) (errorAtFront expected) := by
  rw [errorAtFront]
  refine alongside_peek?_bind (fun t ts => ?_) (fun htail => ?_) fun t htail _ _ => ?_
  · exact at_fail (sameError_unexpected t expected)
  · exact at_endOfInput htail expected
  · exact at_of_rejects htail (rejects_endOfInput expected) fun _ => rejects_fail _

theorem alongside_offset_bind {f f' : Nat → Parser β}
    (h : ∀ place place', r.SamePlace place place' → r.Alongside (f place) (f' place')) :
    r.Alongside (Parser.offset >>= f) (Parser.offset >>= f') := by
  intro ts
  cases ts with
  | nil =>
    have hnear : Parser.offset.run r.stop [] = (.ok r.stop, []) := rfl
    rcases r.tail_cases with htail | ⟨t, rest, htail, -⟩
    · have hfar : Parser.offset.run r.farStop (r.far []) = (.ok r.farStop, r.far []) := by
        rw [far_nil, htail]
        rfl
      rw [At, run_bind_ok hnear, run_bind_ok hfar]
      exact h _ _ r.farStop_eq []
    · have hfar : Parser.offset.run r.farStop (r.far []) = (.ok t.offset, r.far []) := by
        rw [far_nil, htail]
        rfl
      rw [At, run_bind_ok hnear, run_bind_ok hfar]
      exact h _ _ (fun hnil => by rw [hnil] at htail; cases htail) []
  | cons t ts => exact h t.offset _ (samePlace_offset t) (t :: ts)

theorem at_nextToken_bind {f f' : Token → Parser β} {expected : String} (h : r.At ts (f t) (f' (t.shift r.distance))) :
    r.At (t :: ts) (nextToken expected >>= f) (nextToken expected >>= f') :=
  h

/-- The next token has to exist, and no boundary will do. -/
theorem alongside_nextToken_bind {f f' : Token → Parser β} {expected : String}
    (h : ∀ t, r.Alongside (f t) (f' (t.shift r.distance)))
    (hboundary : ∀ (t : Token) ts, t.IsBoundary → (f' t).Rejects ts) :
    r.Alongside (nextToken expected >>= f) (nextToken expected >>= f') := by
  intro ts
  cases ts with
  | nil =>
    rcases r.tail_cases with htail | ⟨t, rest, htail, ht⟩
    · have hend : r.At [] (endOfInput expected >>= f) (endOfInput expected >>= f') :=
        .error fun _ => ⟨_, r.far [], rfl, fun _ => ⟨rfl, r.farStop_eq htail⟩⟩
      rwa [At, far_nil, htail] at hend ⊢
    · refine at_of_rejects (by rw [htail]; nofun) ((rejects_endOfInput expected).bind f) fun _ stop => ?_
      rw [far_nil, htail]
      exact hboundary t rest ht stop
  | cons t ts => exact h t ts

/-! ### Reserved words -/

theorem alongside_peekKeyword? : r.Alongside peekKeyword? peekKeyword? := by
  intro ts
  have hsame : (r.far ts).head?.bind Token.keyword? = ts.head?.bind Token.keyword? :=
    head?_far_bind (fun _ => rfl) (fun _ ht => ht.keyword?_eq) ts
  show r.Agree (.ok (ts.head?.bind Token.keyword?), ts) (.ok ((r.far ts).head?.bind Token.keyword?), r.far ts)
  rw [hsame]
  exact .ok _ ts

/-- The word that comes next, if one does, is there to be taken. -/
theorem alongside_peekKeyword?_bind {f f' : Option Keyword → Parser β}
    (hcons : ∀ t ts, r.At (t :: ts) (f (Token.keyword? t)) (f' t.keyword?)) (hnil : r.At [] (f none) (f' none)) :
    r.Alongside (peekKeyword? >>= f) (peekKeyword? >>= f') := by
  intro ts
  cases ts with
  | nil =>
    have hnone : (r.far []).head?.bind Token.keyword? = none :=
      head?_far_bind (fun _ => rfl) (fun _ ht => ht.keyword?_eq) []
    have hfar : peekKeyword?.run r.farStop (r.far []) = (.ok none, r.far []) := by
      rw [← hnone]
      rfl
    rw [At, run_bind_ok hfar]
    exact hnil
  | cons t ts => exact hcons t ts

theorem alongside_nextIsKeyword (k : Keyword) : r.Alongside (nextIsKeyword k) (nextIsKeyword k) :=
  alongside_peekKeyword?.map fun next => decide (next = some k)

theorem alongside_eatKeyword (k : Keyword) : r.Alongside (eatKeyword k) (eatKeyword k) := by
  intro ts
  cases ts with
  | nil =>
    have hfar : (eatKeyword k).run r.farStop (r.far []) = (.ok false, r.far []) := by
      rcases r.tail_cases with htail | ⟨t, rest, htail, ht⟩
      · rw [far_nil, htail]
        rfl
      · rw [far_nil, htail, run_eatKeyword, ht.keyword?_eq]
        rfl
    rw [At, hfar]
    exact .ok false []
  | cons t ts =>
    rw [At, far_cons, run_eatKeyword, run_eatKeyword, Token.keyword?_shift]
    split
    · exact .ok _ ts
    · exact .ok _ (t :: ts)

theorem alongside_expectKeyword (k : Keyword) : r.Alongside (expectKeyword k) (expectKeyword k) :=
  (alongside_eatKeyword k).bind fun _ => alongside_ite (fun _ => alongside_pure ()) fun _ => alongside_errorAtFront _

/-! ### Operators and punctuation marks -/

/-- The tokens are not followed by a mark in the second text. -/
def NotBefore (r : Relocation) (s : String) : Prop :=
  ∀ t ∈ r.tail.head?, t.isSymbol s = false

theorem notBefore_of_ne {s : String} (hs : s ≠ ";" ∧ s ≠ ")") : r.NotBefore s :=
  fun t ht => (r.boundary t ht).isSymbol_eq hs.1 hs.2

theorem EndsStatement.notBefore (h : r.EndsStatement) : r.NotBefore ")" :=
  fun t ht => Token.isSymbol_closing_of_semicolon (h t ht)

theorem NotBefore.alongside_nextIsSymbol {s : String} (h : r.NotBefore s) :
    r.Alongside (nextIsSymbol s) (nextIsSymbol s) := by
  intro ts
  have hsame : (r.far ts).head?.any (Token.isSymbol · s) = ts.head?.any (Token.isSymbol · s) := by
    cases ts with
    | nil =>
      rcases r.tail_cases with htail | ⟨t, rest, htail, -⟩
      · rw [far_nil, htail]
      · rw [far_nil, htail]
        exact h t (by rw [htail]; rfl)
    | cons t ts => rfl
  show r.Agree (.ok (ts.head?.any (Token.isSymbol · s)), ts) (.ok ((r.far ts).head?.any (Token.isSymbol · s)), r.far ts)
  rw [hsame]
  exact .ok _ ts

theorem at_cons_eatSymbol (s : String) : r.At (t :: ts) (eatSymbol s) (eatSymbol s) := by
  rw [At, far_cons, run_eatSymbol, run_eatSymbol, Token.isSymbol_shift]
  split
  · exact .ok _ ts
  · exact .ok _ (t :: ts)

theorem NotBefore.alongside_eatSymbol {s : String} (h : r.NotBefore s) : r.Alongside (eatSymbol s) (eatSymbol s) := by
  intro ts
  cases ts with
  | nil =>
    have hfar : (eatSymbol s).run r.farStop (r.far []) = (.ok false, r.far []) := by
      rcases r.tail_cases with htail | ⟨t, rest, htail, -⟩
      · rw [far_nil, htail]
        rfl
      · have ht : t.isSymbol s = false := h t (by rw [htail]; rfl)
        rw [far_nil, htail, run_eatSymbol, ht]
        rfl
    rw [At, hfar]
    exact .ok false []
  | cons t ts => exact at_cons_eatSymbol s

theorem alongside_nextIsSymbol (s : String) (hs : s ≠ ";" ∧ s ≠ ")") :
    r.Alongside (nextIsSymbol s) (nextIsSymbol s) :=
  (notBefore_of_ne hs).alongside_nextIsSymbol

theorem alongside_eatSymbol (s : String) (hs : s ≠ ";" ∧ s ≠ ")") :
    r.Alongside (eatSymbol s) (eatSymbol s) :=
  (notBefore_of_ne hs).alongside_eatSymbol

/-- Whether a closing parenthesis comes next. If the first text ends instead, what follows the tokens in the second one can
be that parenthesis, so the reader has to fail there. -/
theorem alongside_nextIsClosing_bind {f f' : Bool → Parser β} (hf : ∀ found, r.Alongside (f found) (f' found))
    (hend : (f false).Rejects []) : r.Alongside (nextIsSymbol ")" >>= f) (nextIsSymbol ")" >>= f') := by
  by_cases hends : r.EndsStatement
  · exact hends.notBefore.alongside_nextIsSymbol.bind hf
  · intro ts
    cases ts with
    | nil => exact at_of_not_endsStatement hends (rejects_bind [] fun _ => ⟨false, rfl, hend⟩)
    | cons t ts => exact hf (t.isSymbol ")") (t :: ts)

/-- As with `alongside_nextIsClosing_bind`, but the parenthesis is taken. -/
theorem alongside_eatClosing_bind {f f' : Bool → Parser β} (hf : ∀ found, r.Alongside (f found) (f' found))
    (hend : (f false).Rejects []) : r.Alongside (eatSymbol ")" >>= f) (eatSymbol ")" >>= f') := by
  by_cases hends : r.EndsStatement
  · exact hends.notBefore.alongside_eatSymbol.bind hf
  · intro ts
    cases ts with
    | nil => exact at_of_not_endsStatement hends (rejects_bind [] fun _ => ⟨false, rfl, hend⟩)
    | cons t ts => exact (at_cons_eatSymbol ")").bind hf

theorem alongside_expectSymbol_bind (s : String) (hs : s ≠ ";" ∧ s ≠ ")") {f f' : Nat → Parser β}
    (h : ∀ place place', r.SamePlace place place' → r.Alongside (f place) (f' place')) :
    r.Alongside (expectSymbol s >>= f) (expectSymbol s >>= f') := by
  intro ts
  cases ts with
  | nil =>
    rcases r.tail_cases with htail | ⟨t, rest, htail, ht⟩
    · have hend : r.At [] (endOfInput ("'" ++ s ++ "'")) (endOfInput ("'" ++ s ++ "'") : Parser β) :=
        at_endOfInput htail _
      rwa [At, far_nil, htail] at hend ⊢
    · -- the first text ends, and the second goes on with a boundary, which is not the symbol
      refine at_of_rejects (by rw [htail]; nofun) ((rejects_endOfInput ("'" ++ s ++ "'")).bind f) fun _ => ?_
      rw [far_nil, htail]
      refine Rejects.bind (fun stop => ⟨unexpected t ("'" ++ s ++ "'"), t :: rest, ?_⟩) f'
      rw [run_expectSymbol, ht.isSymbol_eq hs.1 hs.2]
      rfl
  | cons t ts =>
    have hnear := run_expectSymbol s r.stop t ts
    have hfar := run_expectSymbol s r.farStop (t.shift r.distance) (r.far ts)
    rw [Token.isSymbol_shift] at hfar
    rw [At, far_cons]
    by_cases ht : t.isSymbol s = true
    · rw [if_pos ht] at hnear hfar
      rw [run_bind_ok hnear, run_bind_ok hfar]
      exact h _ _ (samePlace_offset t) ts
    · rw [if_neg ht] at hnear hfar
      rw [run_bind_error hnear, run_bind_error hfar]
      exact .error fun _ => ⟨_, _, rfl, sameError_unexpected t _⟩

/-- Whatever opening parentheses are to be closed. -/
theorem alongside_expectClosing (opening opening' : Nat) :
    r.Alongside (expectClosing opening) (expectClosing opening') := by
  rw [expectClosing, expectClosing]
  refine alongside_eatClosing_bind (fun found => ?_) fun stop => ⟨_, [], rfl⟩
  refine alongside_ite (fun _ => alongside_pure ()) fun _ => ?_
  refine alongside_peek?_bind (fun t ts => ?_) (fun htail => ?_) fun t htail _ _ => ?_
  · exact at_fail fun _ => ⟨rfl, rfl⟩
  · exact .error fun _ => ⟨_, r.far [], rfl, fun _ => ⟨rfl, r.farStop_eq htail⟩⟩
  · exact at_of_rejects htail (fun stop => ⟨_, [], rfl⟩) fun _ => rejects_fail _

/-! ### Loops -/

section

variable {next : List Token → Option β} {step step' : β → α → Parser α} {consumes : ∀ b a, (step b a).Consuming}
  {consumes' : ∀ b a, (step' b a).Consuming}

/-- What calls for a round in the first text calls for one in the second, and the rounds do the same. -/
theorem alongside_loop {g : β → β} (hnil : next [] = none) (hnext : ∀ ts, next (r.far ts) = (next ts).map g)
    (hstep : ∀ b a ts, ts ≠ [] → next ts = some b → r.At ts (step b a) (step' (g b) a)) (a : α) :
    r.Alongside (loop next step consumes a) (loop next step' consumes' a) := by
  intro ts
  induction hlength : ts.length using Nat.strong_induction_on generalizing ts a with
  | _ n ih =>
    subst hlength
    cases hcalls : next ts with
    | none =>
      have hfar : next (r.far ts) = none := by rw [hnext, hcalls]; rfl
      rw [At, run_loop_of_none hcalls, run_loop_of_none hfar]
      exact .ok a ts
    | some b =>
      have hne : ts ≠ [] := by
        rintro rfl
        rw [hnil] at hcalls
        cases hcalls
      have hfar : next (r.far ts) = some (g b) := by rw [hnext, hcalls]; rfl
      have hne' : r.far ts ≠ [] := by simp [far, hne]
      have hround := hstep b a ts hne hcalls
      -- a round takes a token, so there are fewer for the rounds after it
      have hshorter := consumes b a r.stop ts
      rw [At] at hround
      generalize hnear : (step b a).run r.stop ts = near at hround hshorter
      generalize hfar' : (step' (g b) a).run r.farStop (r.far ts) = outcome at hround
      cases hround with
      | ok a' rest =>
        rw [At, run_loop_step hne hcalls hnear, run_loop_step hne' hfar hfar']
        exact ih rest.length (hshorter a' hne rfl) a' rest rfl
      | error h =>
        rw [At, run_loop_error hne hcalls hnear]
        refine .error fun hends => ?_
        obtain ⟨e', left, rfl, he⟩ := h hends
        exact ⟨e', left, run_loop_error hne' hfar hfar', he⟩

end

/-! ### Names, parentheses and commas -/

theorem alongside_expectIdentifier (what : String) : r.Alongside (expectIdentifier what) (expectIdentifier what) := by
  rw [expectIdentifier]
  refine alongside_peek?_bind (fun t ts => ?_) (fun htail => ?_) fun t htail _ ht => ?_
  · exact at_ite (fun _ => at_skip_bind (at_pure t.text)) fun _ => at_fail (sameError_unexpected t what)
  · exact at_endOfInput htail what
  · refine at_of_rejects htail (rejects_endOfInput what) fun _ => ?_
    simp only [ht.isIdentifier_eq]
    exact rejects_fail _

/-- A name after a point does not continue with a boundary. -/
theorem pointAndName?_far (ts : List Token) : pointAndName? (r.far ts) = (pointAndName? ts).map id := by
  rw [Option.map_id, id]
  match ts with
  | [] =>
    rcases r.tail_cases with htail | ⟨t, rest, htail, ht⟩
    · rw [far_nil, htail]
    · rw [far_nil, htail]
      cases rest with
      | nil => rfl
      | cons t' rest => simp [pointAndName?, ht.isSymbol_eq]
  | [point] =>
    rcases r.tail_cases with htail | ⟨t, rest, htail, ht⟩
    · rw [far_cons, far_nil, htail]
      rfl
    · rw [far_cons, far_nil, htail]
      simp [pointAndName?, ht.isIdentifier_eq]
  | point :: t :: ts => rfl

theorem alongside_nameParts (first : String) : r.Alongside (nameParts first) (nameParts first) := by
  refine alongside_loop rfl pointAndName?_far (fun part path ts _ hnext => ?_) first
  match ts, hnext with
  | point :: t :: ts, _ => exact .ok (path ++ "." ++ part) ts

theorem alongside_qualifiedName (what : String) : r.Alongside (qualifiedName what) (qualifiedName what) :=
  (alongside_expectIdentifier what).bind alongside_nameParts

theorem Alongside.commaList {item item' : Parser α} (h : r.Alongside item item') :
    r.Alongside (commaList item) (commaList item') := by
  refine h.bind fun first => Alongside.map (alongside_loop rfl head?_filter_isComma_far ?_ []) _
  intro b others ts hne _
  obtain ⟨t, ts, rfl⟩ := List.exists_cons_of_ne_nil hne
  exact at_skip_bind (h.map (fun another => another :: others) ts)

theorem Alongside.parenthesized (h : r.Alongside p p') : r.Alongside (parenthesized p) (parenthesized p') :=
  alongside_expectSymbol_bind "(" (by decide) fun opening opening' _ =>
    h.bind fun a => (alongside_expectClosing opening opening').bind fun _ => alongside_pure a

theorem alongside_identifierList (what : String) : r.Alongside (identifierList what) (identifierList what) :=
  (alongside_expectIdentifier what).commaList.parenthesized

end Relocation

end Parser

end SqlFormula
