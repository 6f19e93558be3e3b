import SqlFormula.Proofs.Parse.Alongside.Basic

/-!
# Other tokens behind those that are read

What a reader makes of some tokens can depend on the ones behind them, because it looks at these before it stops. Here
they are exchanged for others, of which the first can only end an expression. A reader keeps its result if the exchange
changes nothing about it.

A reader that looks at the next token and leaves it keeps its result only if that token is not an exchanged one. So it
is counted how many of the tokens in front of the exchanged ones a reader has to leave; that there are some often follows
from what is read next.

## Main definitions

- `Token.EndsExpression` — the tokens that only end an expression
- `Parser.AdvancesOn` — a reader takes a token if it succeeds
- `Parser.Exchange` — the tokens behind some others are exchanged
- `Parser.Exchange.KeepsOn` — a reader does the same with the tokens in front

## Main statements

- `Parser.Exchange.KeepsOn.bind`, `Parser.Exchange.KeepsOn.bind_advancing` — readers one after the other
- `Parser.Exchange.keeps_of_cons` — a reader that takes a token has one in front of the exchanged ones
- `Parser.Exchange.keeps_loop`, `Parser.Exchange.Keeps.commaList`, `Parser.Exchange.Keeps.parenthesized`
-/

namespace SqlFormula

/-! ### Tokens that end an expression -/

namespace Token

variable {t : Token}

/-- A token that no expression goes on with: a semicolon, a comma or a closing parenthesis. -/
def EndsExpression (t : Token) : Prop :=
  t.kind = .symbol ∧ t.text ∈ [";", ",", ")"]

instance : Decidable t.EndsExpression :=
  inferInstanceAs (Decidable (_ ∧ _))

namespace EndsExpression

theorem keyword?_eq (h : t.EndsExpression) : t.keyword? = none := by
  rw [keyword?, h.1]

theorem isIdentifier_eq (h : t.EndsExpression) : t.isIdentifier = false := by
  rw [isIdentifier, h.1]

theorem isSymbol_eq {s : String} (h : t.EndsExpression) (hs : s ∉ [";", ",", ")"]) : t.isSymbol s = false := by
  have hne : t.text ≠ s := fun heq => hs (heq ▸ h.2)
  simp [isSymbol, hne]

end EndsExpression

end Token

namespace Parser

open Reader

variable {α β : Type}

/-! ### Taking a token -/

/-- If a reader succeeds on some tokens, it takes at least one. -/
def AdvancesOn (p : Parser α) (ts : List Token) : Prop :=
  ∀ stop a left, p.run stop ts = (.ok a, left) → left.length < ts.length

/-- A reader takes at least one token whenever it succeeds. -/
def Advances (p : Parser α) : Prop :=
  ∀ ts, p.AdvancesOn ts

section

variable {p q : Parser α} {f : α → Parser β} {t : Token} {ts : List Token}

theorem Rejects.advancesOn (h : p.Rejects ts) : p.AdvancesOn ts := by
  intro stop a left hrun
  obtain ⟨e, left', herror⟩ := h stop
  rw [herror] at hrun
  cases hrun

theorem AdvancesOn.bind (h : p.AdvancesOn ts) (f : α → Parser β) : (p >>= f).AdvancesOn ts := by
  intro stop b left hrun
  obtain ⟨a, middle, ha, hb⟩ := exists_of_run_bind hrun
  have hle := (f a).length_run_le stop middle
  rw [hb] at hle
  exact Nat.lt_of_le_of_lt hle (h stop a middle ha)

theorem Advances.bind (h : p.Advances) (f : α → Parser β) : (p >>= f).Advances :=
  fun ts => (h ts).bind f

/-- It is enough that the second reader takes a token. -/
theorem advances_bind (h : ∀ a, (f a).Advances) : (p >>= f).Advances := by
  intro ts stop b left hrun
  obtain ⟨a, middle, ha, hb⟩ := exists_of_run_bind hrun
  have hle := p.length_run_le stop ts
  rw [ha] at hle
  exact Nat.lt_of_lt_of_le (h a middle stop b left hb) hle

theorem advancesOn_ite {c : Prop} [Decidable c] (hp : c → p.AdvancesOn ts) (hq : ¬c → q.AdvancesOn ts) :
    (if c then p else q : Parser α).AdvancesOn ts := by
  split
  · next h => exact hp h
  · next h => exact hq h

theorem advances_fail (e : ParseError) : Advances (fail e : Parser α) :=
  fun _ => (rejects_fail e).advancesOn

theorem advancesOn_skip_bind {f : Unit → Parser β} : AdvancesOn (skip 1 >>= f) (t :: ts) := by
  intro stop b left hrun
  have hle := (f ()).length_run_le stop ts
  rw [run_bind_ok (run_skip 1)] at hrun
  rw [List.drop_one, List.tail_cons] at hrun
  rw [hrun] at hle
  exact Nat.lt_succ_of_le hle

theorem advancesOn_peek?_bind {f : Option Token → Parser β} (h : (f (some t)).AdvancesOn (t :: ts)) :
    AdvancesOn (peek? >>= f) (t :: ts) :=
  h

theorem advances_nextToken (expected : String) : (nextToken expected).Advances := by
  intro ts
  cases ts with
  | nil => exact (rejects_endOfInput expected).advancesOn
  | cons t ts =>
    intro stop a left hrun
    cases hrun
    exact Nat.lt_succ_self _

/-- A reserved word that is found is taken. -/
theorem advancesOn_eatKeyword_bind {k : Keyword} {f : Bool → Parser β} (h : (f false).AdvancesOn ts) :
    (eatKeyword k >>= f).AdvancesOn ts := by
  cases ts with
  | nil => exact h
  | cons t ts =>
    intro stop b left hrun
    rw [run_bind_ok (run_eatKeyword k stop t ts)] at hrun
    by_cases ht : t.keyword? = some k
    · have hle := (f (decide (t.keyword? = some k))).length_run_le stop ts
      rw [if_pos ht] at hrun
      rw [hrun] at hle
      exact Nat.lt_succ_of_le hle
    · rw [if_neg ht, decide_eq_false ht] at hrun
      exact h stop b left hrun

/-- A mark that is found is taken. -/
theorem advancesOn_eatSymbol_bind {s : String} {f : Bool → Parser β} (h : (f false).AdvancesOn ts) :
    (eatSymbol s >>= f).AdvancesOn ts := by
  cases ts with
  | nil => exact h
  | cons t ts =>
    intro stop b left hrun
    rw [run_bind_ok (run_eatSymbol s stop t ts)] at hrun
    cases ht : t.isSymbol s with
    | true =>
      have hle := (f true).length_run_le stop ts
      rw [ht, if_pos rfl] at hrun
      rw [hrun] at hle
      exact Nat.lt_succ_of_le hle
    | false =>
      rw [ht] at hrun
      exact h stop b left hrun

theorem rejects_errorAtFront (expected : String) : (errorAtFront expected : Parser α).Rejects ts := by
  cases ts with
  | nil => exact rejects_endOfInput expected
  | cons t ts => exact rejects_fail _

theorem advances_expectSymbol (s : String) : (expectSymbol s).Advances :=
  advances_bind fun _ _ => advancesOn_eatSymbol_bind (rejects_errorAtFront _).advancesOn

theorem advances_expectClosing (opening : Nat) : (expectClosing opening).Advances := by
  refine fun ts => advancesOn_eatSymbol_bind (Rejects.advancesOn ?_)
  cases ts with
  | nil => exact fun stop => ⟨_, [], rfl⟩
  | cons t ts => exact rejects_fail _

theorem Advances.commaList (h : p.Advances) : (commaList p).Advances :=
  h.bind _

theorem advances_parenthesized (p : Parser α) : (parenthesized p).Advances :=
  (advances_expectSymbol "(").bind _

end

/-! ### Exchanging what follows -/

/-- The tokens behind some others are exchanged for ones that do not continue an expression. -/
structure Exchange where
  /-- Where the first text ends. -/
  stop : Nat
  /-- Where the second text ends. -/
  farStop : Nat
  /-- What follows in the first text. -/
  rest : List Token
  /-- What follows in the second text. -/
  other : List Token
  ends : ∀ t ∈ other.head?, t.EndsExpression

namespace Exchange

/-- What a reader makes of some tokens in front of the exchanged ones it makes of them in both texts, if it leaves at
least `least` of them. -/
def KeepsOn (x : Exchange) (least : Nat) (ts : List Token) (p : Parser α) : Prop :=
  ∀ a left, least ≤ left.length → p.run x.stop (ts ++ x.rest) = (.ok a, left ++ x.rest) →
    p.run x.farStop (ts ++ x.other) = (.ok a, left ++ x.other)

/-- What a reader makes of tokens in front of the exchanged ones it makes of them in both texts, if it leaves at least
`least` of them. -/
def Keeps (x : Exchange) (least : Nat) (p : Parser α) : Prop :=
  ∀ ts, x.KeepsOn least ts p

variable {x : Exchange} {n : Nat} {p q : Parser α} {f : α → Parser β} {t : Token} {ts : List Token}

theorem KeepsOn.mono {m : Nat} (h : x.KeepsOn n ts p) (hle : n ≤ m) : x.KeepsOn m ts p :=
  fun a left hleft => h a left (hle.trans hleft)

theorem Keeps.mono {m : Nat} (h : x.Keeps n p) (hle : n ≤ m) : x.Keeps m p :=
  fun ts => (h ts).mono hle

/-- The other tokens end the second text, or the first of them ends an expression. -/
theorem other_cases (x : Exchange) : x.other = [] ∨ ∃ t rest, x.other = t :: rest ∧ t.EndsExpression := by
  cases h : x.other with
  | nil => exact .inl rfl
  | cons t rest => exact .inr ⟨t, rest, rfl, x.ends t (by rw [h]; rfl)⟩

/-- A property of the next token that no end of an expression has. -/
theorem head?_other_bind {γ : Type} {g : Token → Option γ} (h : ∀ t : Token, t.EndsExpression → g t = none) :
    x.other.head?.bind g = none := by
  rcases x.other_cases with hother | ⟨t, rest, hother, ht⟩
  · rw [hother]
    rfl
  · rw [hother]
    exact h t ht

/-! ### Readers one after the other -/

theorem keepsOn_of_run {a : α} (left : List Token) (hnear : p.run x.stop (ts ++ x.rest) = (.ok a, left ++ x.rest))
    (hfar : p.run x.farStop (ts ++ x.other) = (.ok a, left ++ x.other)) : x.KeepsOn n ts p := by
  intro a' left' _ hrun
  rw [hnear] at hrun
  obtain ⟨ha, hleft⟩ := Prod.mk.inj hrun
  rw [hfar, ← List.append_cancel_right hleft, ha]

theorem keepsOn_congr (hq : x.KeepsOn n ts q) (hnear : p.run x.stop (ts ++ x.rest) = q.run x.stop (ts ++ x.rest))
    (hfar : p.run x.farStop (ts ++ x.other) = q.run x.farStop (ts ++ x.other)) : x.KeepsOn n ts p := by
  rwa [KeepsOn, hnear, hfar]

theorem keepsOn_of_rejects (h : p.Rejects (ts ++ x.rest)) : x.KeepsOn n ts p := by
  intro a left _ hrun
  obtain ⟨e, left', herror⟩ := h x.stop
  rw [herror] at hrun
  cases hrun

theorem keeps_pure (a : α) : x.Keeps n (pure a) :=
  fun ts => keepsOn_of_run ts rfl rfl

theorem keeps_fail (e : ParseError) : x.Keeps n (fail e : Parser α) :=
  fun _ => keepsOn_of_rejects (rejects_fail e)

/-- Failing because of the next token, whichever it is. -/
theorem keeps_offset_fail (e : Nat → ParseError) : x.Keeps n (Parser.offset >>= fun place => fail (e place) : Parser α) := by
  refine fun ts => keepsOn_of_rejects ?_
  cases ts ++ x.rest with
  | nil => exact fun _ => ⟨_, [], rfl⟩
  | cons t ts => exact fun _ => ⟨_, t :: ts, rfl⟩

theorem keeps_ofExcept (result : Except ParseError α) : x.Keeps n (ofExcept result) := by
  cases result with
  | ok a => exact keeps_pure a
  | error e => exact keeps_fail e

theorem keepsOn_ite {c : Prop} [Decidable c] (hp : c → x.KeepsOn n ts p) (hq : ¬c → x.KeepsOn n ts q) :
    x.KeepsOn n ts (if c then p else q) := by
  split
  · next h => exact hp h
  · next h => exact hq h

theorem keeps_ite {c : Prop} [Decidable c] (hp : c → x.Keeps n p) (hq : ¬c → x.Keeps n q) :
    x.Keeps n (if c then p else q) :=
  fun ts => keepsOn_ite (fun h => hp h ts) fun h => hq h ts

/-- What is left at the end is left in between. -/
theorem exists_between {b : β} {left : List Token}
    (hrun : (p >>= f).run x.stop (ts ++ x.rest) = (.ok b, left ++ x.rest)) :
    ∃ a more, p.run x.stop (ts ++ x.rest) = (.ok a, (more ++ left) ++ x.rest) ∧
      (f a).run x.stop ((more ++ left) ++ x.rest) = (.ok b, left ++ x.rest) := by
  obtain ⟨a, middle, ha, hb⟩ := exists_of_run_bind hrun
  obtain ⟨more, hmore⟩ := (f a).suffix x.stop middle
  rw [hb, ← List.append_assoc] at hmore
  rw [← hmore] at ha hb
  exact ⟨a, more, ha, hb⟩

theorem KeepsOn.bind (hp : x.KeepsOn n ts p) (hf : ∀ a, x.Keeps n (f a)) : x.KeepsOn n ts (p >>= f) := by
  intro b left hleft hrun
  obtain ⟨a, more, ha, hb⟩ := exists_between hrun
  have hmore : n ≤ (more ++ left).length := by
    rw [List.length_append]
    omega
  rw [run_bind_ok (hp a _ hmore ha)]
  exact hf a _ b left hleft hb

theorem Keeps.bind (hp : x.Keeps n p) (hf : ∀ a, x.Keeps n (f a)) : x.Keeps n (p >>= f) :=
  fun ts => (hp ts).bind hf

/-- What is taken next has been left. -/
theorem KeepsOn.bind_advancing (hp : x.KeepsOn 1 ts p) (hadvances : ∀ a, (f a).Advances)
    (hf : ∀ a, x.Keeps n (f a)) : x.KeepsOn n ts (p >>= f) := by
  intro b left hleft hrun
  obtain ⟨a, more, ha, hb⟩ := exists_between hrun
  have hmore := hadvances a _ _ _ _ hb
  simp only [List.length_append] at hmore
  have hone : 1 ≤ (more ++ left).length := by
    rw [List.length_append]
    omega
  rw [run_bind_ok (hp a _ hone ha)]
  exact hf a _ b left hleft hb

theorem Keeps.bind_advancing (hp : x.Keeps 1 p) (hadvances : ∀ a, (f a).Advances) (hf : ∀ a, x.Keeps n (f a)) :
    x.Keeps n (p >>= f) :=
  fun ts => (hp ts).bind_advancing hadvances hf

theorem Keeps.map (hp : x.Keeps n p) (g : α → β) : x.Keeps n (p >>= fun a => pure (g a)) :=
  hp.bind fun a => keeps_pure (g a)

/-! ### The next token -/

/-- A reader that takes a token does not take an exchanged one. -/
theorem keeps_of_cons (hadvances : p.Advances) (h : ∀ t ts, x.KeepsOn n (t :: ts) p) : x.Keeps n p := by
  intro ts
  cases ts with
  | nil =>
    intro a left _ hrun
    have hlt := hadvances _ _ _ _ hrun
    simp only [List.nil_append, List.length_append] at hlt
    omega
  | cons t ts => exact h t ts

/-- A reader that leaves a token is not at an exchanged one. -/
theorem keeps_one_of_cons (h : ∀ t ts, x.KeepsOn 1 (t :: ts) p) : x.Keeps 1 p := by
  intro ts
  cases ts with
  | nil =>
    intro a left hleft hrun
    have hle := p.length_run_le x.stop ([] ++ x.rest)
    rw [hrun] at hle
    simp only [List.nil_append, List.length_append] at hle
    omega
  | cons t ts => exact h t ts

theorem keepsOn_skip_bind {f : Unit → Parser β} (h : x.KeepsOn n ts (f ())) : x.KeepsOn n (t :: ts) (skip 1 >>= f) :=
  h

theorem keepsOn_peek?_bind {f : Option Token → Parser β} (h : x.KeepsOn n (t :: ts) (f (some t))) :
    x.KeepsOn n (t :: ts) (peek? >>= f) :=
  h

theorem keepsOn_nextIsSymbol_bind {s : String} {f : Bool → Parser β} (h : x.KeepsOn n (t :: ts) (f (t.isSymbol s))) :
    x.KeepsOn n (t :: ts) (nextIsSymbol s >>= f) :=
  h

theorem keeps_nextToken (expected : String) : x.Keeps n (nextToken expected) :=
  keeps_of_cons (advances_nextToken expected) fun _ ts => keepsOn_of_run ts rfl rfl

theorem keeps_nextIsKeyword (k : Keyword) : x.Keeps 1 (nextIsKeyword k) :=
  keeps_one_of_cons fun t ts => keepsOn_of_run (t :: ts) rfl rfl

theorem keeps_nextIsSymbol (s : String) : x.Keeps 1 (nextIsSymbol s) :=
  keeps_one_of_cons fun t ts => keepsOn_of_run (t :: ts) rfl rfl

/-- If the exchanged tokens start with a mark and the other ones do not, the mark is not taken; so it has to make no
difference. -/
theorem keeps_nextIsSymbol_bind {s : String} (hs : s ∉ [";", ",", ")"]) {f : Bool → Parser β}
    (htrue : (f true).Advances ∨ f true = f false) (hf : ∀ found, x.Keeps n (f found)) :
    x.Keeps n (nextIsSymbol s >>= f) := by
  intro ts
  cases ts with
  | nil =>
    intro a left hleft hrun
    have hnear : (f (x.rest.head?.any (Token.isSymbol · s))).run x.stop x.rest = (.ok a, left ++ x.rest) := hrun
    have hnone : x.other.head?.any (Token.isSymbol · s) = false := by
      rcases x.other_cases with hother | ⟨t, rest, hother, ht⟩
      · rw [hother]
        rfl
      · rw [hother]
        exact ht.isSymbol_eq hs
    -- where the mark is found it is taken, and then less is left than the exchanged tokens
    have hfalse : (f false).run x.stop x.rest = (.ok a, left ++ x.rest) := by
      cases hfound : x.rest.head?.any (Token.isSymbol · s) with
      | true =>
        rw [hfound] at hnear
        rcases htrue with hadvances | heq
        · have hlt := hadvances _ _ _ _ hnear
          rw [List.length_append] at hlt
          omega
        · rwa [← heq]
      | false => rwa [hfound] at hnear
    show (f (x.other.head?.any (Token.isSymbol · s))).run x.farStop x.other = _
    rw [hnone]
    exact hf false [] a left hleft hfalse
  | cons t ts => exact hf (t.isSymbol s) (t :: ts)

theorem keepsOn_eatSymbol (s : String) : x.KeepsOn n (t :: ts) (eatSymbol s) := by
  have hrun (stop : Nat) (rest : List Token) := run_eatSymbol s stop t (ts ++ rest)
  cases ht : t.isSymbol s with
  | true =>
    simp only [ht, if_true] at hrun
    exact keepsOn_of_run ts (hrun _ _) (hrun _ _)
  | false =>
    simp only [ht, Bool.false_eq_true, if_false] at hrun
    exact keepsOn_of_run (t :: ts) (hrun _ _) (hrun _ _)

theorem keepsOn_eatKeyword (k : Keyword) : x.KeepsOn n (t :: ts) (eatKeyword k) := by
  have hrun (stop : Nat) (rest : List Token) := run_eatKeyword k stop t (ts ++ rest)
  by_cases ht : t.keyword? = some k
  · simp only [if_pos ht] at hrun
    exact keepsOn_of_run ts (hrun _ _) (hrun _ _)
  · simp only [if_neg ht] at hrun
    exact keepsOn_of_run (t :: ts) (hrun _ _) (hrun _ _)

/-- A reserved word that is found has been in front of the exchanged tokens. -/
theorem keeps_eatKeyword (k : Keyword) : x.Keeps n (eatKeyword k) := by
  intro ts
  cases ts with
  | nil =>
    intro found left _ hrun
    have hfar : (eatKeyword k).run x.farStop x.other = (.ok false, x.other) := by
      rcases x.other_cases with hother | ⟨t, rest, hother, ht⟩
      · rw [hother]
        rfl
      · rw [hother, run_eatKeyword, ht.keyword?_eq]
        rfl
    have hnear : found = false ∧ x.rest = left ++ x.rest := by
      rw [List.nil_append] at hrun
      cases hrest : x.rest with
      | nil =>
        rw [hrest] at hrun
        obtain ⟨hfound, hleft⟩ := Prod.mk.inj hrun
        exact ⟨(Except.ok.inj hfound).symm, hleft⟩
      | cons t rest =>
        rw [hrest, run_eatKeyword] at hrun
        obtain ⟨hfound, hleft⟩ := Prod.mk.inj hrun
        by_cases ht : t.keyword? = some k
        · rw [if_pos ht] at hleft
          -- a word that is taken is not left
          have hlength := congrArg List.length hleft
          simp only [List.length_append, List.length_cons] at hlength
          omega
        · rw [if_neg ht] at hleft
          rw [decide_eq_false ht] at hfound
          exact ⟨(Except.ok.inj hfound).symm, hleft⟩
    obtain ⟨rfl, hleft⟩ := hnear
    rw [List.self_eq_append_left.1 hleft]
    exact hfar
  | cons t ts => exact keepsOn_eatKeyword k

theorem keeps_errorAtFront (expected : String) : x.Keeps n (errorAtFront expected : Parser α) :=
  fun _ => keepsOn_of_rejects (rejects_errorAtFront expected)

theorem keeps_expectKeyword (k : Keyword) : x.Keeps n (expectKeyword k) :=
  (keeps_eatKeyword k).bind fun _ => keeps_ite (fun _ => keeps_pure ()) fun _ => keeps_errorAtFront _

theorem keeps_expectSymbol (s : String) : x.Keeps n (expectSymbol s) := by
  refine keeps_of_cons (advances_expectSymbol s) fun t ts => ?_
  have hplace : x.KeepsOn n (t :: ts) (eatSymbol s >>= fun found =>
      if found then pure t.offset else errorAtFront ("'" ++ s ++ "'")) :=
    (keepsOn_eatSymbol s).bind fun _ => keeps_ite (fun _ => keeps_pure _) fun _ => keeps_errorAtFront _
  exact hplace

theorem keeps_expectClosing (opening : Nat) : x.Keeps n (expectClosing opening) := by
  refine keeps_of_cons (advances_expectClosing opening) fun t ts => (keepsOn_eatSymbol ")").bind fun found => ?_
  refine keeps_ite (fun _ => keeps_pure ()) fun _ ts => keepsOn_of_rejects ?_
  cases ts ++ x.rest with
  | nil => exact fun stop => ⟨_, [], rfl⟩
  | cons t ts => exact rejects_fail _

/-! ### Loops -/

section

variable {next : List Token → Option β} {step : β → α → Parser α} {consumes : ∀ b a, (step b a).Consuming}

/-- Where no round is called for, none is called for after the exchange; and a round for which nothing is taken from the
exchanged tokens is the same one. -/
theorem keeps_loop (hnil : next [] = none)
    (hnone : ∀ ts, n ≤ ts.length → next (ts ++ x.rest) = none → next (ts ++ x.other) = none)
    (hsome : ∀ t ts b a a' left, next (t :: ts ++ x.rest) = some b →
      (step b a).run x.stop (t :: ts ++ x.rest) = (.ok a', left ++ x.rest) →
      next (t :: ts ++ x.other) = some b ∧ (step b a).run x.farStop (t :: ts ++ x.other) = (.ok a', left ++ x.other))
    (a : α) : x.Keeps n (loop next step consumes a) := by
  intro ts
  induction hlength : ts.length using Nat.strong_induction_on generalizing ts a with
  | _ m ih =>
    subst hlength
    intro result left hleft hrun
    cases hnext : next (ts ++ x.rest) with
    | none =>
      rw [run_loop_of_none hnext] at hrun
      obtain ⟨ha, hts⟩ := Prod.mk.inj hrun
      cases ha
      obtain rfl := List.append_cancel_right hts
      rw [run_loop_of_none (hnone ts hleft hnext)]
    | some b =>
      have hne : ts ++ x.rest ≠ [] := by
        intro h
        rw [h, hnil] at hnext
        cases hnext
      have hshorter := consumes b a x.stop (ts ++ x.rest)
      cases hstep : (step b a).run x.stop (ts ++ x.rest) with
      | mk outcome middle =>
        cases outcome with
        | error e =>
          rw [run_loop_error hne hnext hstep] at hrun
          cases hrun
        | ok a' =>
          rw [run_loop_step hne hnext hstep] at hrun
          -- the rounds after this one leave what the last one leaves
          obtain ⟨more, hmore⟩ := (loop next step consumes a').suffix x.stop middle
          rw [hrun, ← List.append_assoc] at hmore
          subst hmore
          have hlt := hshorter a' hne (by rw [hstep])
          simp only [hstep, List.length_append] at hlt
          cases ts with
          | nil =>
            simp only [List.length_nil] at hlt
            omega
          | cons t ts =>
            obtain ⟨hfarNext, hfarStep⟩ := hsome t ts b a a' (more ++ left) hnext hstep
            have hfarNe : t :: ts ++ x.other ≠ [] := List.cons_ne_nil _ _
            rw [run_loop_step hfarNe hfarNext hfarStep]
            refine ih (more ++ left).length ?_ a' (more ++ left) rfl result left hleft hrun
            rw [List.length_append]
            omega

/-- A loop whose rounds are called for by the next token, in front of a token that is not exchanged. -/
theorem keeps_loop_of_head (hnil : next [] = none) (hhead : ∀ t ts ts', next (t :: ts) = next (t :: ts'))
    (hstep : ∀ t ts b a, x.KeepsOn 0 (t :: ts) (step b a)) (a : α) : x.Keeps 1 (loop next step consumes a) := by
  refine keeps_loop hnil (fun ts hts hnone => ?_) (fun t ts b a a' left hnext hround => ?_) a
  · obtain ⟨t, ts, rfl⟩ := List.exists_cons_of_ne_nil (List.length_pos_iff.1 hts)
    exact (hhead t _ _).trans hnone
  · exact ⟨(hhead t _ _).trans hnext, hstep t ts b a a' left (Nat.zero_le _) hround⟩

end

/-! ### Names, parentheses and commas -/

/-- A point is not followed by a name behind the exchange. -/
theorem pointAndName?_other (ts : List Token) (h : pointAndName? (ts ++ x.rest) = none) :
    pointAndName? (ts ++ x.other) = none := by
  match ts with
  | [] =>
    rcases x.other_cases with hother | ⟨t, rest, hother, ht⟩
    · rw [hother]
      rfl
    · rw [hother]
      cases rest with
      | nil => rfl
      | cons t' rest => simp [pointAndName?, ht.isSymbol_eq]
  | [point] =>
    rcases x.other_cases with hother | ⟨t, rest, hother, ht⟩
    · rw [hother]
      rfl
    · rw [hother]
      simp [pointAndName?, ht.isIdentifier_eq]
  | point :: t :: ts => exact h

theorem keeps_nameParts (first : String) : x.Keeps n (nameParts first) := by
  refine keeps_loop rfl (fun ts _ => pointAndName?_other ts) (fun point ts part path path' left hnext hstep => ?_) first
  obtain ⟨hpath, hleft⟩ := Prod.mk.inj hstep
  cases ts with
  | nil =>
    -- the name after the point would be one of the exchanged tokens
    have hlength := congrArg List.length hleft
    cases hrest : x.rest with
    | nil =>
      rw [hrest] at hnext
      cases hnext
    | cons t rest =>
      simp [hrest] at hlength
      omega
  | cons t ts =>
    refine ⟨hnext, ?_⟩
    have hts : ts ++ x.rest = left ++ x.rest := hleft
    rw [← List.append_cancel_right hts, ← hpath]
    rfl

/-- Items between commas, in front of a token that is not exchanged. -/
theorem Keeps.commaList (h : x.Keeps 0 p) : x.Keeps 1 (commaList p) :=
  (h.mono (Nat.zero_le 1)).bind fun _ =>
    Keeps.map (keeps_loop_of_head rfl (fun _ _ _ => rfl) (fun _ ts _ others => h.map (· :: others) ts) []) _

/-- The closing parenthesis is not exchanged. -/
theorem Keeps.parenthesized (h : x.Keeps 1 p) : x.Keeps n (parenthesized p) := by
  refine (keeps_expectSymbol "(").bind fun opening => h.bind_advancing (fun a => ?_) fun a => ?_
  · exact (advances_expectClosing opening).bind _
  · exact (keeps_expectClosing opening).map fun _ => a

end Exchange

end Parser

end SqlFormula
