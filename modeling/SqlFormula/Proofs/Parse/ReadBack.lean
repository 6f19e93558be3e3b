import SqlFormula.Proofs.Parse.Continuation
import SqlFormula.Proofs.Syntax.Height

/-!
# Reading expressions in full back

An expression that is written in full is read back as it is. Each node takes at most two levels of nesting, one for itself
and one for the parentheses, so the expression may be half as high as nesting may be deep.

## Main definitions

- `Expr.ReadBack` — an expression is read back where some number of levels is left

## Main statements

- `Expr.readBack` — every expression that has a text is read back, given two levels for each node on a path
- `Expr.parseFormula_fullText` — from the whole text
-/

namespace SqlFormula

open Piece

namespace Expr

open Reader SqlFormula.Parser SqlFormula.Parser.Levels

variable {bare : Bool} {m n : Nat} {e : Expr} {E : List Token.Content → Prop}

/-- An expression that is written in full is read back where `m` levels of nesting are left, or more. -/
def ReadBack (bare : Bool) (m : Nat) (e : Expr) : Prop :=
  ∀ n, m ≤ n → ((levels n).expression Precedence.lowest).Takes (tokens (e.pieces bare)) Closes (· = e)

namespace ReadBack

theorem operand (h : ReadBack bare m e) (hn : m ≤ n) :
    (levels n).unary.Takes (inParentheses (tokens (e.pieces bare))) E (· = e) :=
  takes_operand (h n hn)

theorem enclosed (h : ReadBack bare m e) (hn : m + 1 ≤ n) (least : Nat) :
    ((levels n).expression least).Takes (inParentheses (tokens (e.pieces bare))) (Ends least) (· = e) := by
  obtain ⟨k, rfl⟩ : ∃ k, n = k + 1 := ⟨n - 1, by omega⟩
  exact takes_expression_of_unary (h.operand (by omega)) fun r hr => hr

theorem part (h : ReadBack bare m e) (hn : m + 1 ≤ n) :
    ((levels n).expression Precedence.lowest).Takes (tokens (part bare (e.pieces bare))) Closes (· = e) := by
  cases bare with
  | false =>
    rw [Piece.part, if_neg Bool.false_ne_true, tokens_enclosed]
    exact (h.enclosed hn _).follow fun r hr => hr.ends _
  | true => exact h n (by omega)

/-- An expression that is one operand takes a level for itself. -/
theorem of_unary (h : ∀ n, m ≤ n → (levels n).unary.Takes (tokens (e.pieces bare)) Closes (· = e)) :
    ReadBack bare (m + 1) e := by
  intro n hn
  obtain ⟨k, rfl⟩ : ∃ k, n = k + 1 := ⟨n - 1, by omega⟩
  exact takes_expression_of_unary (h k (by omega)) fun r hr => hr.ends _

end ReadBack

/-! ### Operands that are no operators -/

theorem readBack_literal {v : Value} (hv : v.IsLiteral) : ReadBack bare 1 (.literal v) := by
  refine ReadBack.of_unary fun n _ => ?_
  rw [pieces]
  exact takes_literal _ hv

theorem readBack_field (path : String) : ReadBack bare 1 (.field path) := by
  refine ReadBack.of_unary fun n _ => ?_
  rw [pieces]
  exact takes_field _ path fun r hr => hr.noPoint

theorem readBack_unary {op : UnaryOperator} (h : ReadBack bare m e) : ReadBack bare (m + 2) (.unary op e) := by
  refine ReadBack.of_unary fun n hn => ?_
  rw [pieces, tokens_cons, tokens_enclosed]
  have hsign {s : String} (hs : (s, op) = ("-", .negate) ∨ (s, op) = ("+", .plus)) :
      (levels n).unary.Takes ([(.symbol, s)] ++ inParentheses (tokens (e.pieces bare))) Closes (· = .unary op e) := by
    obtain ⟨k, rfl⟩ : ∃ k, n = k + 1 := ⟨n - 1, by omega⟩
    rw [Levels.unary]
    refine takes_eatKeyword_not_bind (keywordContent?_symbol_ne s .NOT) (takes_peek?_bind fun t ht => ?_)
    have hsign : signOperator? t = some op := by
      rw [signOperator?, isSymbol_eq ht, isSymbol_eq ht]
      rcases hs with hs | hs <;> cases hs <;> rfl
    rw [Option.bind_some, hsign]
    refine takes_skip_one.bind_any fun _ _ => ?_
    rw [signed]
    refine takes_peek?_bind fun t ht => ?_
    have hkind : t.kind = .symbol := congrArg Prod.fst ht
    -- the operand is in parentheses, so the sign is not that of a number
    simp only [hkind, reduceCtorEq, and_false, if_false]
    have hoperand : (levels (k + 1)).operand.Takes (inParentheses (tokens (e.pieces bare))) Closes (· = e) :=
      h.operand (by omega)
    exact hoperand.map fun a ha => ⟨_, rfl, by rw [ha]⟩
  cases op with
  | not =>
    rw [Levels.unary]
    refine takes_eatKeyword_bind ?_
    refine ((h.enclosed hn Precedence.not).follow fun r hr => hr.ends _).map fun a ha => ⟨_, rfl, ?_⟩
    rw [ha]
  | negate => exact hsign (.inl rfl)
  | plus => exact hsign (.inr rfl)

/-! ### Binary operators and what else follows an operand -/

/-- An operand that is continued takes a level for itself and one for the operands in their parentheses. -/
theorem readBack_continued {operand : Expr} (ops ds : List Token.Content) (c : Continuation) (isPair : Bool)
    (htokens : tokens (e.pieces bare) = inParentheses (tokens (operand.pieces bare)) ++ (ops ++ ds))
    (hlength : ops.length = if isPair then 2 else 1)
    (hops : ∀ r, continuation? ((ops ++ (ds ++ r)).map tokenOf) = some (c, isPair))
    (hoperand : ReadBack bare m operand)
    (hrest : ∀ n, m + 1 ≤ n → ((levels n).continueWith operand c).Takes ds Closes (· = e)) :
    ReadBack bare (m + 2) e := by
  intro n hn
  obtain ⟨k, rfl⟩ : ∃ k, n = k + 1 := ⟨n - 1, by omega⟩
  rw [htokens]
  exact takes_continued hlength hops (hoperand.operand (by omega)) (hrest k (by omega))

theorem length_notPieces (negate : Bool) (k : Keyword) :
    (tokens (notPieces negate ++ [keyword k])).length = if negate then 2 else 1 := by
  cases negate <;> rfl

theorem readBack_binary {op : BinaryOperator} {negate : Bool} {left right : Expr}
    (hnegate : negate = true → op.canNegate = true) (hleft : ReadBack bare m left) (hright : ReadBack bare m right) :
    ReadBack bare (m + 2) (.binary op negate left right) := by
  refine readBack_continued (tokens (op.pieces negate)) (inParentheses (tokens (right.pieces bare)))
    (.binary op negate) negate ?_ ?_ (fun r => continuation?_operator hnegate _) hleft fun n hn => ?_
  · simp [pieces]
  · have hone : op.piece.contents.length = 1 := by
      cases op <;> rfl
    cases negate with
    | false => simp [BinaryOperator.pieces, hone]
    | true => by_cases his : op = .is <;> simp [BinaryOperator.pieces, hone, his]
  · rw [continueWith]
    exact ((hright.enclosed hn op.precedence).follow fun r hr => hr.ends _).map fun a ha => ⟨_, rfl, by rw [ha]⟩

theorem readBack_between {negate : Bool} {operand low high : Expr} (hoperand : ReadBack bare m operand)
    (hlow : ReadBack bare m low) (hhigh : ReadBack bare m high) :
    ReadBack bare (m + 2) (.between negate operand low high) := by
  refine readBack_continued (tokens (notPieces negate ++ [keyword .BETWEEN]))
    (inParentheses (tokens (low.pieces bare)) ++ keywordToken .AND :: inParentheses (tokens (high.pieces bare)))
    (.between negate) negate ?_ (length_notPieces negate _)
    (fun r => continuation?_not (.inl rfl) negate _) hoperand fun n hn => ?_
  · simp [pieces]
  · rw [continueWith]
    refine (hlow.enclosed hn Precedence.additive).bind (fun low' hlow' => ?_) fun r _ => ?_
    · refine (takes_expectKeyword .AND).bind_any fun _ _ => ?_
      refine ((hhigh.enclosed hn Precedence.additive).follow fun r hr => hr.ends _).map fun high' hhigh' => ⟨_, rfl, ?_⟩
      rw [hlow', hhigh']
    · rw [Ends, tightContinuation?, List.cons_append, continuation?_keyword]
      rfl

theorem readBack_collate {collation : Collation} {operand : Expr} (hoperand : ReadBack bare m operand) :
    ReadBack bare (m + 2) (.collate operand collation) := by
  refine readBack_continued [keywordToken .COLLATE] [(.word, collation.tag)] .collate false ?_ rfl
    (fun r => continuation?_keyword _ _) hoperand fun n hn => ?_
  · rw [pieces, tokens_append, tokens_enclosed]
    rfl
  · rw [continueWith]
    exact (takes_collationName collation).map fun a ha => ⟨_, rfl, by rw [ha]⟩

/-! ### How expressions start -/

/-- What an expression can start with: a parenthesis, a sign, or something that is no symbol, and only some of the
reserved words. -/
structure Starts (c : Token.Content) : Prop where
  ofSymbol : ∀ s, c = (.symbol, s) → s ∈ ["(", "-", "+"]
  ofKeyword : ∀ k, keywordContent? c = some k → k ∈ [.NULL, .TRUE, .FALSE, .NOT, .CASE, .CAST, .REPLACE]

theorem Starts.isSymbolContent_eq {c : Token.Content} (h : Starts c) {s : String} (hs : s ∉ ["(", "-", "+"]) :
    isSymbolContent c s = false := by
  refine Bool.eq_false_iff.2 fun hsymbol => hs (h.ofSymbol s ?_)
  simp only [isSymbolContent, Bool.and_eq_true, beq_iff_eq] at hsymbol
  exact Prod.ext hsymbol.1 hsymbol.2

theorem Starts.ne_keyword {c : Token.Content} (h : Starts c) {k : Keyword}
    (hk : k ∉ [.NULL, .TRUE, .FALSE, .NOT, .CASE, .CAST, .REPLACE]) : keywordContent? c ≠ some k :=
  fun heq => hk (h.ofKeyword k heq)

theorem starts_symbol {s : String} (h : s ∈ ["(", "-", "+"]) : Starts (.symbol, s) := by
  refine ⟨fun s' heq => ?_, nofun⟩
  cases heq
  exact h

theorem starts_keyword {k : Keyword} (h : k ∈ [.NULL, .TRUE, .FALSE, .NOT, .CASE, .CAST, .REPLACE]) :
    Starts (keywordToken k) := by
  refine ⟨nofun, fun l heq => ?_⟩
  rw [keywordContent?_keywordToken] at heq
  rwa [← Option.some.inj heq]

theorem starts_other {kind : Token.Kind} (s : String) (hword : kind ≠ .word) (hsymbol : kind ≠ .symbol) :
    Starts (kind, s) := by
  refine ⟨fun _ heq => absurd (congrArg Prod.fst heq) hsymbol, fun k heq => ?_⟩
  cases kind with
  | word => exact absurd rfl hword
  | _ => cases heq

/-- The first of the tokens starts an expression. -/
def StartsWell (cs : List Token.Content) : Prop :=
  ∃ c ds, cs = c :: ds ∧ Starts c

theorem startsWell_cons {c : Token.Content} (h : Starts c) (ds : List Token.Content) : StartsWell (c :: ds) :=
  ⟨c, ds, rfl, h⟩

theorem StartsWell.append {cs : List Token.Content} (h : StartsWell cs) (ds : List Token.Content) :
    StartsWell (cs ++ ds) := by
  obtain ⟨c, es, rfl, hc⟩ := h
  exact startsWell_cons hc _

theorem startsWell_inParentheses (cs : List Token.Content) : StartsWell (inParentheses cs) :=
  startsWell_cons (starts_symbol (by decide)) _

theorem startsWell_literalPieces {v : Value} (hv : v.IsLiteral) : StartsWell (tokens v.literalPieces) := by
  cases v with
  | null => exact startsWell_cons (starts_keyword (by decide)) _
  | boolean b => cases b <;> exact startsWell_cons (starts_keyword (by decide)) _
  | integer i =>
    rw [Value.literalPieces, tokens_cons, Piece.contents]
    split
    · exact startsWell_cons (starts_symbol (by decide)) _
    · exact startsWell_cons (starts_other _ (by decide) (by decide)) _
  | text s => exact startsWell_cons (starts_other _ (by decide) (by decide)) _
  | blob bytes => exact startsWell_cons (starts_other _ (by decide) (by decide)) _
  | float | dateTime | array | object => exact hv.elim

theorem startsWell_pieces (he : e.Expressible) : StartsWell (tokens (e.pieces bare)) := by
  cases e with
  | literal v =>
    rw [pieces]
    rw [Expressible] at he
    exact startsWell_literalPieces he
  | field path =>
    rw [pieces]
    exact startsWell_cons (starts_other _ (by decide) (by decide)) _
  | unary op operand =>
    rw [pieces, tokens_cons]
    cases op with
    | not => exact startsWell_cons (starts_keyword (by decide)) _
    | negate | plus => exact startsWell_cons (starts_symbol (by decide)) _
  | call function args =>
    rw [pieces, tokens_cons]
    have hword : Token.Kind.word ≠ .symbol := by decide
    refine startsWell_cons ⟨fun _ heq => absurd (congrArg Prod.fst heq) hword, fun k hk => ?_⟩ _
    -- `REPLACE` is the only reserved word that names a function
    rw [eq_of_keywordContent?_name hk]
    decide
  | caseWhen | caseOf | cast =>
    rw [pieces, tokens_cons]
    exact startsWell_cons (starts_keyword (by decide)) _
  | binary | between | among =>
    rw [pieces, tokens_append, tokens_append, tokens_enclosed]
    exact ((startsWell_inParentheses _).append _).append _
  | collate operand collation =>
    rw [pieces, tokens_append, tokens_enclosed]
    exact (startsWell_inParentheses _).append _

theorem startsWell_part (he : e.Expressible) : StartsWell (tokens (Piece.part bare (e.pieces bare))) := by
  cases bare with
  | false =>
    rw [Piece.part, if_neg Bool.false_ne_true, tokens_enclosed]
    exact startsWell_inParentheses _
  | true => exact startsWell_pieces he

/-! ### Lists of candidates and arguments -/

section

variable {es : List Expr} {item : Parser Expr}

theorem tokens_partPieces (es : List Expr) :
    tokens (items (partPieces bare es)) = betweenCommas (es.map fun e => tokens (Piece.part bare (e.pieces bare))) := by
  rw [tokens_items, partPieces_eq_map, List.map_map]
  rfl

theorem takes_parts (hne : es ≠ []) (h : ∀ e ∈ es, item.Takes (tokens (Piece.part bare (e.pieces bare))) Closes (· = e)) :
    (commaList item).Takes (tokens (items (partPieces bare es))) (fun r => r.head? = some (.symbol, ")")) (· = es) := by
  rw [tokens_partPieces]
  have hcomma (r : List Token.Content) : Closes ((.symbol, ",") :: r) := closes_cons (by simp [closers])
  have hread := takes_commaList (v := id) (F := fun r => r.head? = some (.symbol, ")")) hne h hcomma fun r hr => ?_
  · rwa [List.map_id] at hread
  · refine ⟨fun c hc => ?_, by rw [NoComma, hr]; decide⟩
    rw [← Option.some.inj (hr.symm.trans hc)]
    simp [closers]

theorem startsWell_items (hne : es ≠ []) (he : ∀ e ∈ es, e.Expressible) :
    StartsWell (tokens (items (partPieces bare es))) := by
  obtain ⟨e, es, rfl⟩ := List.exists_cons_of_ne_nil hne
  rw [tokens_partPieces, List.map_cons, betweenCommas_cons]
  exact (startsWell_part (he e List.mem_cons_self)).append _

theorem takes_candidates (he : ∀ e ∈ es, e.Expressible) (h : ∀ e ∈ es, ReadBack bare m e) (hn : m + 1 ≤ n) :
    (levels n).candidates.Takes (inParentheses (tokens (items (partPieces bare es)))) E (· = es) := by
  rw [candidates, inParentheses]
  refine (takes_expectSymbol "(").bind_any fun opening _ => ?_
  by_cases hne : es = []
  · rw [hne]
    exact takes_eatSymbol_bind (takes_pure rfl)
  · have hread := takes_parts hne fun e hmem => (h e hmem).part hn
    obtain ⟨c, ds, heq, hc⟩ := startsWell_items hne he
    rw [heq] at hread ⊢
    refine takes_eatSymbol_not_bind (hc.isSymbolContent_eq (by decide)) ?_
    refine hread.bind (fun args hargs => ?_) fun r _ => rfl
    exact (takes_expectClosing opening).map fun _ _ => ⟨args, rfl, hargs⟩

theorem readBack_among {negate : Bool} {operand : Expr} (hoperand : ReadBack bare m operand)
    (he : ∀ e ∈ es, e.Expressible) (h : ∀ e ∈ es, ReadBack bare m e) :
    ReadBack bare (m + 2) (.among negate operand es) := by
  refine readBack_continued (tokens (notPieces negate ++ [keyword .IN]))
    (inParentheses (tokens (items (partPieces bare es)))) (.among negate) negate ?_ (length_notPieces negate _)
    (fun r => continuation?_not (.inr rfl) negate _) hoperand fun n hn => ?_
  · simp [pieces]
  · rw [continueWith]
    exact (takes_candidates he h hn).map fun a ha => ⟨_, rfl, by rw [ha]⟩

theorem takes_argument (name : String) (he : e.Expressible) (h : ReadBack bare m e) (hn : m + 1 ≤ n) :
    ((levels n).argument name).Takes (tokens (Piece.part bare (e.pieces bare))) Closes (· = e) := by
  have hread := h.part hn
  obtain ⟨c, ds, heq, hc⟩ := startsWell_part he
  rw [heq] at hread ⊢
  rw [argument]
  refine takes_nextIsSymbol_bind ?_
  rw [hc.isSymbolContent_eq (by decide)]
  refine takes_nextIsSymbol_bind ?_
  rw [hc.isSymbolContent_eq (by decide)]
  exact hread

theorem takes_callArguments (f : Builtin) (name : String) (he : ∀ e ∈ es, e.Expressible)
    (h : ∀ e ∈ es, ReadBack bare m e) (hn : m + 1 ≤ n) :
    ((levels n).callArguments f name).Takes (inParentheses (tokens (items (partPieces bare es)))) E (· = es) := by
  rw [callArguments, inParentheses]
  refine (takes_expectSymbol "(").bind_any fun opening _ => ?_
  by_cases hne : es = []
  · rw [hne]
    exact takes_eatSymbol_bind (takes_pure rfl)
  · have hread := takes_parts hne fun e hmem => takes_argument name (he e hmem) (h e hmem) hn
    obtain ⟨c, ds, heq, hc⟩ := startsWell_items hne he
    rw [heq] at hread ⊢
    refine takes_eatSymbol_not_bind (hc.isSymbolContent_eq (by decide)) (takes_ahead_bind fun ts rest hts _ => ?_)
    -- what starts an expression is neither the star of `COUNT(*)` nor `DISTINCT`
    have hstar : isStarAlone (ts ++ rest) = false := by
      obtain ⟨t, us, rfl, ht, -⟩ := List.map_eq_cons_iff.1 hts
      cases hus : us ++ rest with
      | nil =>
        rw [List.cons_append, hus]
        rfl
      | cons u vs =>
        rw [List.cons_append, hus, isStarAlone, isSymbol_eq ht, hc.isSymbolContent_eq (by decide)]
        rfl
    rw [hstar, if_neg fun h => Bool.false_ne_true h.2]
    refine takes_nextIsKeyword_bind ?_
    rw [decide_eq_false (hc.ne_keyword (by decide))]
    refine hread.bind (fun args hargs => ?_) fun r _ => rfl
    have hclose : (closeCall name opening).Takes [(.symbol, ")")] E fun _ => True := by
      rw [closeCall]
      refine takes_peek?_bind fun t ht => ?_
      have hclosing : t.isSymbol ")" = true := isSymbol_eq ht ")"
      simp only [hclosing, if_true]
      exact takes_skip_one
    exact hclose.map fun _ _ => ⟨args, rfl, hargs⟩

theorem readBack_call {f : Builtin} (he : ∀ e ∈ es, e.Expressible) (h : ∀ e ∈ es, ReadBack bare m e) :
    ReadBack bare (m + 2) (.call f es) := by
  refine ReadBack.of_unary fun n hn => ?_
  rw [pieces, tokens_cons, tokens_enclosed, Piece.contents, List.singleton_append]
  have hnot : keywordContent? (.word, f.name) ≠ some .NOT := fun h =>
    absurd (eq_of_keywordContent?_name h) (by decide)
  refine takes_unary_of_word _ rfl hnot ?_
  rw [wordOperand, ← List.singleton_append]
  refine (takes_nextToken _).bind_any fun t ht => takes_nextIsSymbol_bind ?_
  have hkeyword := keywordContent?_name f
  rw [← keyword?_eq ht] at hkeyword
  have hbuiltin : t.builtin? = some f := by
    rw [Token.builtin?, show t.kind = .word from congrArg Prod.fst ht, show t.text = _ from congrArg Prod.snd ht]
    exact lookup_name f
  have hread := takes_callArguments (E := Closes) f t.text he h hn
  -- the reserved word `REPLACE` names a function as well
  obtain hkeyword | hkeyword := hkeyword
  all_goals
    rw [hkeyword, hbuiltin]
    exact hread.map fun args hargs => ⟨_, rfl, by rw [hargs]⟩

end

/-! ### `CASE` and `CAST` -/

section

variable {clauses : List (Expr × Expr)} {otherwise operand : Expr}

/-- A word comes next that is known. -/
def Next (k : Keyword) (r : List Token.Content) : Prop :=
  r.head? = some (keywordToken k)

theorem Next.closes {k : Keyword} {r : List Token.Content} (h : Next k r) (hk : keywordToken k ∈ closers) : Closes r := by
  intro c hc
  rwa [← Option.some.inj (h.symm.trans hc)]

theorem next_cons (k : Keyword) (r : List Token.Content) : Next k (keywordToken k :: r) :=
  rfl

theorem keyword?_of_next {k : Keyword} {ts : List Token} (h : Next k (ts.map Token.content)) :
    ts.head?.bind Token.keyword? = some k := by
  cases ts with
  | nil => cases h
  | cons t ts =>
    rw [List.head?_cons, Option.bind_some, keyword?_eq (Option.some.inj h), keywordContent?_keywordToken]

theorem takes_clause {c : Expr × Expr} (hcondition : ReadBack bare m c.1) (hresult : ReadBack bare m c.2)
    (hn : m + 1 ≤ n) :
    (levels n).clause.Takes (tokens (Piece.part bare (c.1.pieces bare)) ++
      ([keywordToken .THEN] ++ tokens (Piece.part bare (c.2.pieces bare)))) Closes (· = c) := by
  rw [clause]
  refine (hcondition.part hn).bind (fun condition hcondition => ?_) fun r _ => closes_cons (by simp [closers])
  refine takes_eatKeyword_bind ?_
  refine (hresult.part hn).map fun result hresult => ⟨_, rfl, ?_⟩
  rw [hcondition, hresult]

theorem closes_clauses (clauses : List (Expr × Expr)) {r : List Token.Content} (hr : Next .ELSE r) :
    Closes (tokens (clausePieces bare clauses) ++ r) := by
  cases clauses with
  | nil => exact hr.closes (by simp [closers])
  | cons c rest => exact (next_cons .WHEN _).closes (by simp [closers])

/-- The rounds of the loop. The last clause comes first in the list. -/
theorem takes_clauseLoop (h : ∀ c ∈ clauses, ReadBack bare m c.1 ∧ ReadBack bare m c.2) (hn : m + 1 ≤ n)
    (read : List (Expr × Expr)) :
    Takes (loop whenAhead? (fun _ read => do
        skip 1
        let c ← (levels n).clause
        pure (c :: read)) (fun _ _ => (Consuming.skip 0).bind_left _) read)
      (tokens (clausePieces bare clauses)) (Next .ELSE) (· = clauses.reverse ++ read) := by
  induction clauses generalizing read with
  | nil =>
    -- no round is called for by `ELSE`
    refine takes_loop_nil fun ts hts => ?_
    cases ts with
    | nil => rfl
    | cons t ts =>
      have hkeyword : t.keyword? = some .ELSE := keyword?_of_next hts
      rw [whenAhead?, List.head?_cons, Option.any_some, Token.isKeyword, hkeyword]
      rfl
  | cons c rest ih =>
    obtain ⟨hc, hrest⟩ := List.forall_mem_cons.1 h
    have htokens : tokens (clausePieces bare (c :: rest)) =
        (keywordToken .WHEN :: (tokens (Piece.part bare (c.1.pieces bare)) ++
          ([keywordToken .THEN] ++ tokens (Piece.part bare (c.2.pieces bare))))) ++
        tokens (clausePieces bare rest) := by
      simp [clausePieces]
    rw [htokens, List.reverse_cons, List.append_assoc]
    refine takes_loop_cons (B := fun _ => True) (F := Closes) (List.cons_ne_nil _ _) (fun ts r _ hts => ?_)
      (fun _ _ => ?_) (ih hrest (c :: read)) fun r hr => closes_clauses rest hr
    · obtain ⟨t, us, rfl, ht, -⟩ := List.map_eq_cons_iff.1 hts
      have hkeyword : t.keyword? = some .WHEN := (keyword?_eq ht).trans (keywordContent?_keywordToken .WHEN)
      rw [whenAhead?, List.head?_cons, Option.any_some, Token.isKeyword, hkeyword]
      exact ⟨(), rfl, trivial⟩
    · exact takes_skip_one.bind_any fun _ _ => (takes_clause hc.1 hc.2 hn).map fun c' hc' => ⟨_, rfl, by rw [hc']⟩

theorem takes_clauses (hne : clauses ≠ []) (h : ∀ c ∈ clauses, ReadBack bare m c.1 ∧ ReadBack bare m c.2)
    (hn : m + 1 ≤ n) : (levels n).clauses.Takes (tokens (clausePieces bare clauses)) (Next .ELSE) (· = clauses) := by
  have hloop := takes_clauseLoop h hn []
  obtain ⟨c, rest, rfl⟩ := List.exists_cons_of_ne_nil hne
  rw [clausePieces, tokens_cons, contents_keyword, List.singleton_append] at hloop ⊢
  rw [Levels.clauses]
  refine takes_nextIsKeyword_bind ?_
  rw [decide_eq_true (keywordContent?_keywordToken .WHEN)]
  refine hloop.map fun read hread => ⟨_, rfl, ?_⟩
  rw [hread, List.append_nil, List.reverse_reverse]

theorem takes_otherwise (h : ReadBack bare m otherwise) (hn : m + 1 ≤ n) (start : Nat) :
    ((levels n).otherwise start).Takes ([keywordToken .ELSE] ++ tokens (Piece.part bare (otherwise.pieces bare))) Closes
      (· = otherwise) := by
  rw [Levels.otherwise]
  exact takes_eatKeyword_bind (h.part hn)

/-- The `CASE` of its parts. -/
def caseExpr (operand? : Option Expr) (clauses : List (Expr × Expr)) (otherwise : Expr) : Expr :=
  match operand? with
  | some operand => .caseOf operand clauses otherwise
  | none => .caseWhen clauses otherwise

theorem takes_caseExpression {operand? : Option Expr} {cs : List Token.Content}
    (hoperand : (levels n).caseOperand?.Takes cs (Next .WHEN) (· = operand?)) (hne : clauses ≠ [])
    (hclauses : ∀ c ∈ clauses, ReadBack bare m c.1 ∧ ReadBack bare m c.2) (hotherwise : ReadBack bare m otherwise)
    (hn : m + 1 ≤ n) (start : Nat) :
    ((levels n).caseExpression start).Takes (cs ++ (tokens (clausePieces bare clauses) ++
      (([keywordToken .ELSE] ++ tokens (Piece.part bare (otherwise.pieces bare))) ++ [keywordToken .END]))) E
      (· = caseExpr operand? clauses otherwise) := by
  rw [caseExpression]
  refine hoperand.bind (fun operand' hoperand' => ?_) fun r _ => ?_
  · refine (takes_clauses hne hclauses hn).bind (fun clauses' hclauses' => ?_) fun r _ => next_cons .ELSE _
    refine (takes_otherwise hotherwise hn start).bind (fun otherwise' hotherwise' => ?_) fun r _ =>
      (next_cons .END r).closes (by simp [closers])
    rw [hoperand', hclauses', hotherwise']
    refine takes_eatKeyword_bind ?_
    cases operand? with
    | none => exact takes_pure rfl
    | some operand => exact takes_pure rfl
  · obtain ⟨c, rest, rfl⟩ := List.exists_cons_of_ne_nil hne
    rfl

theorem takes_caseOperand?_none : (levels n).caseOperand?.Takes [] (Next .WHEN) (· = none) := by
  intro stop ts rest hts hrest
  obtain rfl := List.map_eq_nil_iff.1 hts
  have hwhen : (nextIsKeyword .WHEN).run stop rest = (.ok true, rest) := by
    show (Except.ok (decide (rest.head?.bind Token.keyword? = some .WHEN)), rest) = _
    rw [decide_eq_true (keyword?_of_next hrest)]
  rw [caseOperand?, List.nil_append, run_bind_ok hwhen]
  exact ⟨none, rfl, rfl⟩

theorem takes_caseOperand?_some (he : operand.Expressible) (h : ReadBack bare m operand) (hn : m + 1 ≤ n) :
    (levels n).caseOperand?.Takes (tokens (Piece.part bare (operand.pieces bare))) (Next .WHEN) (· = some operand) := by
  have hread := (h.part hn).follow fun r (hr : Next .WHEN r) => hr.closes (by simp [closers])
  obtain ⟨c, ds, heq, hc⟩ := startsWell_part he
  rw [heq] at hread ⊢
  rw [caseOperand?]
  -- an operand starts with none of `WHEN`, `ELSE` and `END`
  refine takes_nextIsKeyword_bind ?_
  rw [decide_eq_false (hc.ne_keyword (by decide))]
  refine takes_nextIsKeyword_bind ?_
  rw [decide_eq_false (hc.ne_keyword (by decide))]
  refine takes_nextIsKeyword_bind ?_
  rw [decide_eq_false (hc.ne_keyword (by decide))]
  exact hread.map fun a ha => ⟨_, rfl, congrArg some ha⟩

/-- An operand that starts with `CASE` or `CAST`. -/
theorem takes_keywordOperand {inner : Levels} {k : Keyword} {p : Token → Parser Expr} {cs : List Token.Content}
    {P : Expr → Prop} (hk : (k, p) = (.CASE, fun t => inner.caseExpression t.offset) ∨
      (k, p) = (.CAST, fun t => inner.castExpression t.text)) (h : ∀ t, (p t).Takes cs E P) :
    inner.unary.Takes (keywordToken k :: cs) E P := by
  have hnot : keywordContent? (keywordToken k) ≠ some .NOT := by
    rw [keywordContent?_keywordToken]
    rcases hk with hk | hk <;> cases hk <;> decide
  refine takes_unary_of_word _ rfl hnot ?_
  rw [wordOperand]
  refine (takes_nextToken (c := keywordToken k) _).bind_any fun t ht => ?_
  refine (takes_nextIsSymbol "(").bind_any fun isCall _ => ?_
  rw [(keyword?_eq ht).trans (keywordContent?_keywordToken k)]
  rcases hk with hk | hk <;> cases hk <;> exact h t

theorem readBack_caseWhen (hne : clauses ≠ [])
    (hclauses : ∀ c ∈ clauses, ReadBack bare m c.1 ∧ ReadBack bare m c.2) (hotherwise : ReadBack bare m otherwise) :
    ReadBack bare (m + 2) (.caseWhen clauses otherwise) := by
  refine ReadBack.of_unary fun n hn => ?_
  have hread := takes_caseExpression (E := Closes) takes_caseOperand?_none hne hclauses hotherwise hn
  have htokens := takes_keywordOperand (.inl rfl) fun t => hread t.offset
  simpa [pieces, caseExpr] using htokens

theorem readBack_caseOf (he : operand.Expressible) (hoperand : ReadBack bare m operand) (hne : clauses ≠ [])
    (hclauses : ∀ c ∈ clauses, ReadBack bare m c.1 ∧ ReadBack bare m c.2) (hotherwise : ReadBack bare m otherwise) :
    ReadBack bare (m + 2) (.caseOf operand clauses otherwise) := by
  refine ReadBack.of_unary fun n hn => ?_
  have hread := takes_caseExpression (E := Closes) (takes_caseOperand?_some he hoperand hn) hne hclauses hotherwise hn
  have htokens := takes_keywordOperand (.inl rfl) fun t => hread t.offset
  simpa [pieces, caseExpr] using htokens

theorem readBack_cast {target : TypeName} (ht : target.Expressible) (hoperand : ReadBack bare m operand) :
    ReadBack bare (m + 2) (.cast operand target) := by
  refine ReadBack.of_unary fun n hn => ?_
  rw [pieces, tokens_cons, tokens_enclosed, tokens_append, tokens_cons]
  refine takes_keywordOperand (.inr rfl) fun t => ?_
  show Takes (parenthesized _) _ _ _
  refine takes_parenthesized (E := fun r => r.head? = some (.symbol, ")")) ?_ fun r => rfl
  refine (hoperand.part hn).bind (fun operand' hoperand' => ?_) fun r _ => (next_cons .AS _).closes (by simp [closers])
  refine (takes_expectKeyword .AS).bind_any fun _ _ => ?_
  refine (takes_typeName? ht fun r hr => ?_).map fun target' htarget' => ?_
  · refine ⟨fun c hc => ?_, by rw [hr]; decide⟩
    rw [← Option.some.inj (hr.symm.trans hc)]
    decide
  · rw [htarget', hoperand']
    exact ⟨_, rfl, rfl⟩

end

/-! ### Whole expressions -/

theorem ReadBack.mono {k : Nat} (h : ReadBack bare m e) (hle : m ≤ k) : ReadBack bare k e :=
  fun n hn => h n (hle.trans hn)

/-- Two levels of nesting for each node on a path are enough. -/
theorem readBack {d : Nat} (hheight : e.height ≤ d) (he : e.Expressible) : ReadBack bare (2 * d) e := by
  induction d generalizing e with
  | zero =>
    have hpos := e.height_pos
    omega
  | succ d ih =>
    -- the parts of the expression are lower by one
    have hpart {e : Expr} (hsum : e.pathSum (fun _ => 1) ≤ d) (he : e.Expressible) : ReadBack bare (2 * d) e :=
      ih hsum he
    have hparts {es : List Expr} (hsums : pathSums (fun _ => 1) es ≤ d) (hes : AllExpressible es) :
        (∀ e ∈ es, e.Expressible) ∧ ∀ e ∈ es, ReadBack bare (2 * d) e := by
      have hexpressible := allExpressible_iff.1 hes
      exact ⟨hexpressible, fun e hmem => hpart ((pathSum_le_pathSums hmem).trans hsums) (hexpressible e hmem)⟩
    have hclauses {clauses : List (Expr × Expr)} (hsums : clauseSums (fun _ => 1) clauses ≤ d)
        (hexpressible : ClausesExpressible clauses) :
        ∀ c ∈ clauses, ReadBack bare (2 * d) c.1 ∧ ReadBack bare (2 * d) c.2 := by
      intro c hmem
      obtain ⟨hcondition, hresult⟩ := pathSum_le_clauseSums hmem
      have hc := clausesExpressible_iff.1 hexpressible c hmem
      exact ⟨hpart (hcondition.trans hsums) hc.1, hpart (hresult.trans hsums) hc.2⟩
    rw [height] at hheight
    cases e with (rw [pathSum] at hheight; rw [Expressible] at he)
    | literal v => exact (readBack_literal he).mono (by omega)
    | field path => exact (readBack_field path).mono (by omega)
    | unary op operand => exact readBack_unary (hpart (by omega) he)
    | binary op negate left right =>
      exact readBack_binary he.1 (hpart (by omega) he.2.1) (hpart (by omega) he.2.2)
    | call function args =>
      obtain ⟨hargs, hread⟩ := hparts (by omega) he
      exact readBack_call hargs hread
    | caseWhen clauses otherwise =>
      exact readBack_caseWhen he.1 (hclauses (by omega) he.2.1) (hpart (by omega) he.2.2)
    | caseOf operand clauses otherwise =>
      obtain ⟨hoperand, hne, hexpressible, hotherwise⟩ := he
      exact readBack_caseOf hoperand (hpart (by omega) hoperand) hne (hclauses (by omega) hexpressible)
        (hpart (by omega) hotherwise)
    | between negate operand low high =>
      exact readBack_between (hpart (by omega) he.1) (hpart (by omega) he.2.1) (hpart (by omega) he.2.2)
    | among negate operand candidates =>
      obtain ⟨hcandidates, hread⟩ := hparts (by omega) he.2
      exact readBack_among (hpart (by omega) he.1) hcandidates hread
    | cast operand target => exact readBack_cast he.2 (hpart (by omega) he.1)
    | collate operand collation => exact readBack_collate (hpart (by omega) he)

/-- **An expression is read back from its text in full**, if it is at most half as high as nesting may be deep. -/
theorem parseFormula_fullText (bare : Bool) (he : e.Expressible) (hheight : 2 * e.height ≤ nestingLimit) :
    parseFormula (e.fullText bare) = .ok e := by
  have hread : ReadBack bare (2 * e.height) e := readBack le_rfl he
  exact parseFormula_line (allProper_pieces bare he) ((hread nestingLimit hheight).follow fun r hr => hr ▸ nofun)

/-- An expression of what could be misread: a sign before a negative number, the least integer, `IS NOT` before `NOT`, a
call of `replace`, quotes inside quotes, no arguments, no candidates, and a field that is called like a reserved word. -/
def entangled : Expr :=
  .binary .is true
    (.between true (.unary .negate (.literal (.integer (-5)))) (.literal (.integer (-9223372036854775808)))
      (.call .count []))
    (.unary .not (.caseOf (.field "a\"b")
      [(.among true (.call .replace [.literal (.text "it's"), .literal .null, .literal (.blob [202, 254])]) [],
        .cast (.literal (.boolean true)) (.declare "LONG VARCHAR" [-3]))]
      (.collate (.field "end") .noCase)))

theorem expressible_entangled : entangled.Expressible := by
  have htype : (TypeName.declare "LONG VARCHAR" [-3]).Expressible := by
    have hwords : (TypeName.declare "LONG VARCHAR" [-3]).words = ["LONG", "VARCHAR"] := by with_unfolding_all decide
    refine ⟨?_, rfl⟩
    rw [hwords]
    simp only [List.forall_mem_cons]
    exact ⟨⟨isWord_of_ascii (by decide), by with_unfolding_all decide⟩, ⟨isWord_of_ascii (by decide), by decide +kernel⟩, nofun⟩
  simp [entangled, Expressible, AllExpressible, ClausesExpressible, Value.IsLiteral, htype, BinaryOperator.canNegate]

theorem entangled_parseFormula : entangled.Expressible ∧ 2 * entangled.height ≤ nestingLimit ∧
    parseFormula (entangled.fullText true) = .ok entangled := by
  have hheight : 2 * entangled.height ≤ nestingLimit := by decide
  exact ⟨expressible_entangled, hheight, parseFormula_fullText true expressible_entangled hheight⟩

end Expr

end SqlFormula
