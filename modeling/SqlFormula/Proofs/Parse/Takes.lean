import SqlFormula.Parse.Basic
import SqlFormula.Proofs.Reader
import SqlFormula.Proofs.Token.Piece

/-!
# Reading known tokens

What a reader of tokens does depends on their kinds and texts, not on where they stand. The lemmas here follow the
readers that the grammars share through tokens that are known like that.

## Main definitions

- `Parser.Takes` — a reader takes known tokens, if what follows them is of some kind

## Main statements

- `Parser.Takes.bind` — readers one after the other
- `Parser.takes_eatSymbol_bind`, `Parser.takes_eatKeyword_bind` — a token that may be there
- `Parser.takes_parenthesized`, `Parser.takes_commaList` — parentheses and commas
-/

namespace SqlFormula.Parser

open Reader

variable {α β : Type} {c : Token.Content} {cs ds : List Token.Content} {E F : List Token.Content → Prop}
  {P : α → Prop} {Q : β → Prop}

/-- A reader takes tokens with the contents `cs` if what follows them satisfies `E`. Its result satisfies `P`. -/
def Takes (p : Parser α) (cs : List Token.Content) (E : List Token.Content → Prop) (P : α → Prop) : Prop :=
  ∀ stop ts rest, ts.map Token.content = cs → E (rest.map Token.content) →
    ∃ a, p.run stop (ts ++ rest) = (.ok a, rest) ∧ P a

/-- Anything may follow. -/
def Anything (_ : List Token.Content) : Prop :=
  True

/-! ### Readers one after the other -/

theorem takes_pure {a : α} (h : P a) : (pure a : Parser α).Takes [] E P := by
  intro stop ts rest hts _
  obtain rfl := List.map_eq_nil_iff.1 hts
  exact ⟨a, rfl, h⟩

theorem Takes.bind {p : Parser α} {f : α → Parser β} (hp : p.Takes cs E P) (hf : ∀ a, P a → (f a).Takes ds F Q)
    (h : ∀ r, F r → E (ds ++ r)) : (p >>= f).Takes (cs ++ ds) F Q := by
  intro stop ts rest hts hrest
  obtain ⟨xs, ys, rfl, hxs, hys⟩ := List.map_eq_append_iff.1 hts
  obtain ⟨a, hrun, ha⟩ := hp stop xs (ys ++ rest) hxs (by rw [List.map_append, hys]; exact h _ hrest)
  rw [List.append_assoc, run_bind_ok hrun]
  exact hf a ha stop ys rest hys hrest

/-- After a reader that does not mind what follows. -/
theorem Takes.bind_any {p : Parser α} {f : α → Parser β} (hp : p.Takes cs Anything P)
    (hf : ∀ a, P a → (f a).Takes ds F Q) : (p >>= f).Takes (cs ++ ds) F Q :=
  hp.bind hf fun _ _ => trivial

/-- The last reader takes nothing. -/
theorem Takes.bind_end {p : Parser α} {f : α → Parser β} (hp : p.Takes cs Anything P)
    (hf : ∀ a, P a → (f a).Takes [] F Q) : (p >>= f).Takes cs F Q := by
  rw [← List.append_nil cs]
  exact hp.bind_any hf

theorem Takes.follow {p : Parser α} (hp : p.Takes cs E P) (h : ∀ r, F r → E r) : p.Takes cs F P :=
  fun stop ts rest hts hrest => hp stop ts rest hts (h _ hrest)

theorem Takes.map {p : Parser α} {f : α → Parser β} (hp : p.Takes cs E P) (hf : ∀ a, P a → ∃ b, f a = pure b ∧ Q b) :
    (p >>= f).Takes cs E Q := by
  intro stop ts rest hts hrest
  obtain ⟨a, hrun, ha⟩ := hp stop ts rest hts hrest
  obtain ⟨b, hb, hQ⟩ := hf a ha
  rw [run_bind_ok hrun, hb]
  exact ⟨b, rfl, hQ⟩

/-! ### The next token -/

theorem takes_peek?_bind {f : Option Token → Parser β} (h : ∀ t : Token, t.content = c → (f (some t)).Takes (c :: cs) E Q) :
    (peek? >>= f : Parser β).Takes (c :: cs) E Q := by
  intro stop ts rest hts hrest
  obtain ⟨t, us, rfl, ht, -⟩ := List.map_eq_cons_iff.1 hts
  exact h t ht stop (t :: us) rest hts hrest

theorem takes_ahead_bind {f : List Token → Parser β}
    (h : ∀ ts rest : List Token, ts.map Token.content = cs → E (rest.map Token.content) →
      (f (ts ++ rest)).Takes cs E Q) : (ahead >>= f : Parser β).Takes cs E Q :=
  fun stop ts rest hts hrest => h ts rest hts hrest stop ts rest hts hrest

theorem takes_skip (n : Nat) (h : cs.length = n) : Takes (skip n) cs E fun _ => True := by
  intro stop ts rest hts _
  have hlength : ts.length = n := by
    rw [← h, ← hts, List.length_map]
  refine ⟨(), ?_, trivial⟩
  rw [run_skip, List.drop_left' hlength]

/-- Skipping one token takes it, whatever it is. -/
theorem takes_skip_one : Takes (skip 1) [c] E fun _ => True :=
  takes_skip 1 rfl

theorem takes_nextToken (expected : String) : (nextToken expected).Takes [c] E fun t => t.content = c := by
  intro stop ts rest hts _
  obtain ⟨t, us, rfl, ht, hus⟩ := List.map_eq_cons_iff.1 hts
  obtain rfl := List.map_eq_nil_iff.1 hus
  exact ⟨t, rfl, ht⟩

/-- Looking at what comes next takes nothing. -/
theorem takes_offset : (Parser.offset).Takes [] E fun _ => True := by
  intro stop ts rest hts _
  obtain rfl := List.map_eq_nil_iff.1 hts
  cases rest with
  | nil => exact ⟨stop, rfl, trivial⟩
  | cons t rest => exact ⟨t.offset, rfl, trivial⟩

/-! ### Operators and punctuation marks -/

/-- Whether a token is an operator or a punctuation mark, by its content. -/
def isSymbolContent (c : Token.Content) (s : String) : Bool :=
  c.1 == .symbol && c.2 == s

theorem isSymbol_eq {t : Token} (h : t.content = c) (s : String) : t.isSymbol s = isSymbolContent c s := by
  rw [← h]
  rfl

theorem takes_nextIsSymbol_bind {s : String} {f : Bool → Parser β} (h : (f (isSymbolContent c s)).Takes (c :: cs) E Q) :
    (nextIsSymbol s >>= f).Takes (c :: cs) E Q := by
  intro stop ts rest hts hrest
  obtain ⟨t, us, rfl, ht, -⟩ := List.map_eq_cons_iff.1 hts
  have hrun : (nextIsSymbol s).run stop (t :: us ++ rest) = (.ok (t.isSymbol s), t :: us ++ rest) := rfl
  rw [run_bind_ok hrun, isSymbol_eq ht]
  exact h stop (t :: us) rest hts hrest

/-- What comes next may be a mark or not. -/
theorem takes_nextIsSymbol (s : String) : (nextIsSymbol s).Takes [] E fun _ => True := by
  intro stop ts rest hts _
  obtain rfl := List.map_eq_nil_iff.1 hts
  exact ⟨_, rfl, trivial⟩

theorem run_eatSymbol (s : String) (stop : Nat) (t : Token) (rest : List Token) :
    (eatSymbol s).run stop (t :: rest) = (.ok (t.isSymbol s), if t.isSymbol s then rest else t :: rest) := by
  have hnext : (nextIsSymbol s).run stop (t :: rest) = (.ok (t.isSymbol s), t :: rest) := rfl
  rw [eatSymbol, run_bind_ok hnext]
  cases t.isSymbol s with
  | false => rfl
  | true => rfl

/-- A mark that is there is taken. -/
theorem takes_eatSymbol (s : String) : (eatSymbol s).Takes [(.symbol, s)] E (· = true) := by
  intro stop ts rest hts _
  obtain ⟨t, us, rfl, ht, hus⟩ := List.map_eq_cons_iff.1 hts
  obtain rfl := List.map_eq_nil_iff.1 hus
  have hsymbol : t.isSymbol s = true := by
    rw [isSymbol_eq ht]
    simp [isSymbolContent]
  refine ⟨true, ?_, rfl⟩
  rw [List.singleton_append, run_eatSymbol, hsymbol]
  rfl

theorem takes_eatSymbol_bind {s : String} {f : Bool → Parser β} (h : (f true).Takes cs E Q) :
    (eatSymbol s >>= f).Takes ((.symbol, s) :: cs) E Q := by
  refine (takes_eatSymbol s).bind_any fun found hfound => ?_
  rw [hfound]
  exact h

/-- A mark that is not there is not taken. -/
theorem takes_eatSymbol_not_bind {s : String} {f : Bool → Parser β} (hc : isSymbolContent c s = false)
    (h : (f false).Takes (c :: cs) E Q) : (eatSymbol s >>= f).Takes (c :: cs) E Q := by
  intro stop ts rest hts hrest
  obtain ⟨t, us, rfl, ht, -⟩ := List.map_eq_cons_iff.1 hts
  have hrun : (eatSymbol s).run stop (t :: us ++ rest) = (.ok false, t :: us ++ rest) := by
    rw [List.cons_append, run_eatSymbol, isSymbol_eq ht, hc]
    rfl
  rw [run_bind_ok hrun]
  exact h stop (t :: us) rest hts hrest

theorem takes_expectSymbol (s : String) : (expectSymbol s).Takes [(.symbol, s)] E fun _ => True := by
  rw [expectSymbol]
  refine takes_offset.bind (E := Anything) (fun place _ => ?_) fun _ _ => trivial
  exact takes_eatSymbol_bind (takes_pure trivial)

theorem takes_expectClosing (opening : Nat) : (expectClosing opening).Takes [(.symbol, ")")] E fun _ => True := by
  rw [expectClosing]
  exact takes_eatSymbol_bind (takes_pure trivial)

/-! ### Reserved words -/

/-- The reserved word that a token is, by its content. -/
def keywordContent? (c : Token.Content) : Option Keyword :=
  match c.1 with
  | .word => Keyword.lookup c.2
  | _ => none

theorem keywordContent?_symbol_ne (s : String) (k : Keyword) : keywordContent? (.symbol, s) ≠ some k := by
  intro h
  cases h

theorem keyword?_eq {t : Token} (h : t.content = c) : t.keyword? = keywordContent? c := by
  rw [← h]
  rfl

/-- A reserved word as a token. -/
def keywordToken (k : Keyword) : Token.Content :=
  (.word, k.display)

theorem keywordContent?_keywordToken (k : Keyword) : keywordContent? (keywordToken k) = some k := by
  cases k <;> decide

theorem takes_nextIsKeyword_bind {k : Keyword} {f : Bool → Parser β}
    (h : (f (decide (keywordContent? c = some k))).Takes (c :: cs) E Q) : (nextIsKeyword k >>= f).Takes (c :: cs) E Q := by
  intro stop ts rest hts hrest
  obtain ⟨t, us, rfl, ht, -⟩ := List.map_eq_cons_iff.1 hts
  have hrun : (nextIsKeyword k).run stop (t :: us ++ rest) = (.ok (decide (t.keyword? = some k)), t :: us ++ rest) :=
    rfl
  rw [run_bind_ok hrun, keyword?_eq ht]
  exact h stop (t :: us) rest hts hrest

theorem run_eatKeyword (k : Keyword) (stop : Nat) (t : Token) (rest : List Token) :
    (eatKeyword k).run stop (t :: rest) =
      (.ok (decide (t.keyword? = some k)), if t.keyword? = some k then rest else t :: rest) := by
  have hnext : (nextIsKeyword k).run stop (t :: rest) = (.ok (decide (t.keyword? = some k)), t :: rest) := rfl
  rw [eatKeyword, run_bind_ok hnext]
  by_cases h : t.keyword? = some k
  · rw [if_pos h, decide_eq_true h]
    rfl
  · rw [if_neg h, decide_eq_false h]
    rfl

/-- A reserved word that is there is taken. -/
theorem takes_eatKeyword (k : Keyword) : (eatKeyword k).Takes [keywordToken k] E (· = true) := by
  intro stop ts rest hts _
  obtain ⟨t, us, rfl, ht, hus⟩ := List.map_eq_cons_iff.1 hts
  obtain rfl := List.map_eq_nil_iff.1 hus
  have hkeyword : t.keyword? = some k := (keyword?_eq ht).trans (keywordContent?_keywordToken k)
  refine ⟨true, ?_, rfl⟩
  rw [List.singleton_append, run_eatKeyword, if_pos hkeyword, decide_eq_true hkeyword]

theorem takes_eatKeyword_bind {k : Keyword} {f : Bool → Parser β} (h : (f true).Takes cs E Q) :
    (eatKeyword k >>= f).Takes (keywordToken k :: cs) E Q := by
  refine (takes_eatKeyword k).bind_any fun found hfound => ?_
  rw [hfound]
  exact h

/-- A reserved word that is not there is not taken. -/
theorem takes_eatKeyword_not_bind {k : Keyword} {f : Bool → Parser β} (hc : keywordContent? c ≠ some k)
    (h : (f false).Takes (c :: cs) E Q) : (eatKeyword k >>= f).Takes (c :: cs) E Q := by
  intro stop ts rest hts hrest
  obtain ⟨t, us, rfl, ht, -⟩ := List.map_eq_cons_iff.1 hts
  have hkeyword : t.keyword? ≠ some k := fun heq => hc ((keyword?_eq ht).symm.trans heq)
  have hrun : (eatKeyword k).run stop (t :: us ++ rest) = (.ok false, t :: us ++ rest) := by
    rw [List.cons_append, run_eatKeyword, if_neg hkeyword, decide_eq_false hkeyword]
  rw [run_bind_ok hrun]
  exact h stop (t :: us) rest hts hrest

theorem takes_expectKeyword (k : Keyword) : (expectKeyword k).Takes [keywordToken k] E fun _ => True := by
  rw [expectKeyword]
  exact takes_eatKeyword_bind (takes_pure trivial)

/-! ### Loops -/

section

variable {next : List Token → Option β} {step : β → α → Parser α} {consumes : ∀ b a, (step b a).Consuming} {a : α}

theorem takes_loop_nil (h : ∀ ts : List Token, E (ts.map Token.content) → next ts = none) :
    Takes (loop next step consumes a) [] E (· = a) := by
  intro stop ts rest hts hrest
  obtain rfl := List.map_eq_nil_iff.1 hts
  exact ⟨a, run_loop_of_none (h _ hrest), rfl⟩

/-- A round takes at least one token, and the further rounds take the others. -/
theorem takes_loop_cons {B : β → Prop} {a' : α} (hne : cs ≠ [])
    (hnext : ∀ (ts : List Token) r, E r → ts.map Token.content = cs ++ ds ++ r → ∃ b, next ts = some b ∧ B b)
    (hstep : ∀ b, B b → (step b a).Takes cs F (· = a')) (hrest : Takes (loop next step consumes a') ds E P)
    (h : ∀ r, E r → F (ds ++ r)) : Takes (loop next step consumes a) (cs ++ ds) E P := by
  intro stop ts rest hts hE
  obtain ⟨xs, ys, rfl, hxs, hys⟩ := List.map_eq_append_iff.1 hts
  have hcontents : (xs ++ ys ++ rest).map Token.content = cs ++ ds ++ rest.map Token.content := by
    rw [List.map_append, List.map_append, hxs, hys]
  have hinput : xs ++ ys ++ rest ≠ [] := by
    intro hnil
    rw [hnil] at hcontents
    exact hne (List.append_eq_nil_iff.1 (List.append_eq_nil_iff.1 hcontents.symm).1).1
  obtain ⟨b, hb, hB⟩ := hnext _ _ hE hcontents
  obtain ⟨_, hrun, rfl⟩ := hstep b hB stop xs (ys ++ rest) hxs (by rw [List.map_append, hys]; exact h _ hE)
  rw [← List.append_assoc] at hrun
  rw [run_loop_step hinput hb hrun]
  exact hrest stop ys rest hys hE

end

/-! ### Parentheses and commas -/

/-- The tokens of something in parentheses. -/
def inParentheses (cs : List Token.Content) : List Token.Content :=
  (.symbol, "(") :: (cs ++ [(.symbol, ")")])

theorem takes_parenthesized {p : Parser α} (hp : p.Takes cs E P) (h : ∀ r, E ((.symbol, ")") :: r)) :
    (parenthesized p).Takes (inParentheses cs) F P := by
  rw [parenthesized]
  refine (takes_expectSymbol "(").bind_any fun opening _ => ?_
  refine hp.bind (fun a ha => ?_) fun r _ => h r
  exact (takes_expectClosing opening).map fun _ _ => ⟨a, rfl, ha⟩

/-- The tokens of items with commas between them. -/
def betweenCommas : List (List Token.Content) → List Token.Content
  | [] => []
  | [cs] => cs
  | cs :: ds :: rest => cs ++ (.symbol, ",") :: betweenCommas (ds :: rest)

/-- No comma comes next. -/
def NoComma (r : List Token.Content) : Prop :=
  r.head? ≠ some (.symbol, ",")

theorem isComma_of_noComma {t : Token} {rest : List Token} (h : NoComma ((t :: rest).map Token.content)) :
    isComma t = false := by
  refine Bool.eq_false_iff.2 fun hcomma => h ?_
  simp only [isComma, Token.isSymbol, Bool.and_eq_true, beq_iff_eq] at hcomma
  rw [List.map_cons, List.head?_cons, Token.content, hcomma.1, hcomma.2]

theorem betweenCommas_cons (cs : List Token.Content) (css : List (List Token.Content)) :
    betweenCommas (cs :: css) = cs ++ css.flatMap ((.symbol, ",") :: ·) := by
  induction css generalizing cs with
  | nil => exact (List.append_nil cs).symm
  | cons ds css ih => rw [betweenCommas, ih, List.flatMap_cons, List.cons_append]

/-- The tokens of further items, each after its comma. -/
def afterCommas (css : List (List Token.Content)) : List Token.Content :=
  css.flatMap ((.symbol, ",") :: ·)

section

variable {γ : Type} {item : Parser α} {xs : List γ} {g : γ → List Token.Content} {v : γ → α}

theorem before_afterCommas (hcomma : ∀ r, E ((.symbol, ",") :: r)) (hend : ∀ r, F r → E r ∧ NoComma r)
    (css : List (List Token.Content)) : ∀ r, F r → E (afterCommas css ++ r) := by
  intro r hr
  cases css with
  | nil => exact (hend r hr).1
  | cons cs css => exact hcomma _

/-- The rounds after the first item. The last item comes first in the list. -/
theorem takes_afterCommas (h : ∀ x ∈ xs, item.Takes (g x) E (· = v x)) (hcomma : ∀ r, E ((.symbol, ",") :: r))
    (hend : ∀ r, F r → E r ∧ NoComma r) (read : List α) :
    Takes (loop (fun input => input.head?.filter isComma) (fun _ others => do
        skip 1
        let another ← item
        pure (another :: others)) (fun _ _ => (Consuming.skip 0).bind_left _) read)
      (afterCommas (xs.map g)) F (· = (xs.map v).reverse ++ read) := by
  induction xs generalizing read with
  | nil =>
    refine takes_loop_nil fun ts hts => ?_
    cases ts with
    | nil => rfl
    | cons t ts =>
      rw [List.head?_cons, Option.filter_some, isComma_of_noComma (hend _ hts).2]
      rfl
  | cons x xs ih =>
    obtain ⟨hx, hrest⟩ := List.forall_mem_cons.1 h
    have hread : ((x :: xs).map v).reverse ++ read = (xs.map v).reverse ++ v x :: read := by
      rw [List.map_cons, List.reverse_cons, List.append_assoc, List.singleton_append]
    rw [hread, List.map_cons, afterCommas, List.flatMap_cons]
    refine takes_loop_cons (B := fun _ => True) (List.cons_ne_nil _ _) (fun ts r _ hts => ?_) (fun b _ => ?_)
      (ih hrest (v x :: read)) (before_afterCommas hcomma hend (xs.map g))
    · obtain ⟨t, us, rfl, ht, -⟩ := List.map_eq_cons_iff.1 hts
      have hmark : isComma t = true := by
        rw [isComma, isSymbol_eq ht]
        rfl
      rw [List.head?_cons, Option.filter_some, hmark]
      exact ⟨t, rfl, trivial⟩
    · refine takes_skip_one.bind_any fun _ _ => hx.map fun another hanother => ?_
      rw [hanother]
      exact ⟨_, rfl, rfl⟩

/-- Items are taken one after the other, if each can be followed by a comma. -/
theorem takes_commaList (hne : xs ≠ []) (h : ∀ x ∈ xs, item.Takes (g x) E (· = v x))
    (hcomma : ∀ r, E ((.symbol, ",") :: r)) (hend : ∀ r, F r → E r ∧ NoComma r) :
    (commaList item).Takes (betweenCommas (xs.map g)) F (· = xs.map v) := by
  obtain ⟨x, xs, rfl⟩ := List.exists_cons_of_ne_nil hne
  obtain ⟨hx, hrest⟩ := List.forall_mem_cons.1 h
  rw [List.map_cons, betweenCommas_cons, commaList, sepBy1]
  refine hx.bind (fun first hfirst => ?_) (before_afterCommas hcomma hend (xs.map g))
  refine (takes_afterCommas hrest hcomma hend []).map fun others hothers => ?_
  rw [hfirst, hothers, List.append_nil, List.reverse_reverse]
  exact ⟨_, rfl, rfl⟩

end

end SqlFormula.Parser
