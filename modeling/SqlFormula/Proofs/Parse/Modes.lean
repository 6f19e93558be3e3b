import SqlFormula.Proofs.Parse.Batch
import SqlFormula.Proofs.Parse.Printing

/-!
# Formulas in statements

A formula is read as the same expression wherever a statement can have one: as a condition, a result column, a value
or a check. What makes a text a formula makes it a condition, and the other way around.

## Main statements

- `Parser.run_expression_atEnd`, `Parser.run_expression_beforeClosing` — a formula in another text
- `parseStatements_of_parseFormula` — the clauses that a formula can be put into
- `Parser.exists_of_parseStatements_delete` — a condition is a formula
-/

namespace SqlFormula

namespace Parser

open Reader Relocation

variable {stop : Nat} {ts rest : List Token} {t : Token} {e : Expr}

/-! ### Formulas -/

theorem run_formula_ok (h : expression.run stop ts = (.ok e, [])) : formula.run stop ts = (.ok e, []) := by
  rw [formula, run_bind_ok h]
  rfl

theorem run_formula_error (h : expression.run stop ts = (.ok e, t :: rest)) (ht : t.isSymbol ";" = false) :
    formula.run stop ts = (.error (unexpected t "end of expression"), t :: rest) := by
  have hsemicolon : (eatSymbol ";").run stop (t :: rest) = (.ok false, t :: rest) := by
    rw [run_eatSymbol, ht]
    rfl
  rw [formula, run_bind_ok h, run_bind_ok hsemicolon]
  rfl

/-- If no semicolon comes with it, a formula is an expression that takes all tokens. -/
theorem parseFormula_eq_ok_iff {f : String} (hts : tokenize f = .ok ts) (hsemicolon : ∀ t ∈ ts, t.isSymbol ";" = false) :
    parseFormula f = .ok e ↔ expression.run f.utf8ByteSize ts = (.ok e, []) := by
  have hrun : parseFormula f = (formula.run f.utf8ByteSize ts).1 := by rw [parseFormula, runOn, hts]
  rw [hrun]
  constructor
  · intro h
    have hsuffix := expression.suffix f.utf8ByteSize ts
    generalize hexpression : expression.run f.utf8ByteSize ts = outcome at hsuffix
    obtain ⟨_ | e', rest⟩ := outcome
    · rw [formula, run_bind_error hexpression] at h
      cases h
    · cases rest with
      | nil =>
        rw [run_formula_ok hexpression] at h
        cases h
        rfl
      | cons t rest =>
        -- a formula does not end in front of a token that is no semicolon
        rw [run_formula_error hexpression (hsemicolon t (hsuffix.subset List.mem_cons_self))] at h
        cases h
  · intro h
    rw [run_formula_ok h]

/-- `DISTINCT` and `ALL` start neither an expression nor a call. -/
theorem rejects_unary_word (inner : Levels) {k : Keyword} (ht : t.keyword? = some k) (hk : k = .DISTINCT ∨ k = .ALL)
    (ts : List Token) : inner.unary.Rejects (t :: ts) := by
  have hkind : t.kind = .word := by
    rw [Token.keyword?] at ht
    split at ht
    · assumption
    · cases ht
  have hbuiltin : t.builtin? = none := by
    have hlookup : Keyword.lookup t.text = some k := by rwa [Token.keyword?, hkind] at ht
    have hname : Text.asciiLower t.text = k.name := by
      have hfound := List.find?_some hlookup
      exact (beq_iff_eq.1 hfound).symm
    rw [Token.builtin?, hkind]
    show Builtin.lookup t.text = none
    rw [Builtin.lookup, hname]
    rcases hk with rfl | rfl <;> decide
  have hsign : (some t).bind Levels.signOperator? = none := by
    simp [Levels.signOperator?, Token.isSymbol, hkind]
  have hnot : t.keyword? ≠ some .NOT := by
    rw [ht]
    rcases hk with rfl | rfl <;> decide
  rw [Levels.unary]
  -- neither `NOT` nor a sign, so the word would have to start an operand
  refine rejects_bind (t :: ts) fun stop => ⟨false, ?_, rejects_bind (t :: ts) fun _ => ⟨some t, rfl, ?_⟩⟩
  · rw [run_eatKeyword, if_neg hnot, decide_eq_false hnot]
  · rw [hsign, Levels.primary]
    refine rejects_bind (t :: ts) fun _ => ⟨some t, rfl, ?_⟩
    simp only [hkind]
    rw [Levels.wordOperand]
    refine rejects_bind ts fun _ => ⟨t, rfl, rejects_bind ts fun _ =>
      ⟨ts.head?.any (Token.isSymbol · "("), rfl, ?_⟩⟩
    rw [ht, hbuiltin]
    cases ts.head?.any (Token.isSymbol · "(") <;> rcases hk with rfl | rfl <;> exact rejects_fail _

/-- What starts an expression is neither a star nor a word for the result columns. -/
theorem start_of_run_expression (h : expression.run stop (t :: ts) = (.ok e, rest)) :
    t.isSymbol "*" = false ∧ t.keyword? ≠ some .DISTINCT ∧ t.keyword? ≠ some .ALL := by
  have hne {p : Parser Expr} (hp : p.Rejects (t :: ts)) : p.run stop (t :: ts) ≠ (.ok e, rest) := by
    obtain ⟨e', left, hrun⟩ := hp stop
    rw [hrun]
    nofun
  have hword {k : Keyword} (hk : k = .DISTINCT ∨ k = .ALL) (ht : t.keyword? = some k) : False :=
    hne ((rejects_unary_word (levels 255) ht hk ts).bind _) h
  refine ⟨Bool.eq_false_iff.2 fun hstar => ?_, hword (.inl rfl), hword (.inr rfl)⟩
  refine hne ((Levels.rejects_unary (levels 255) ?_).bind _) h
  rintro _ ⟨⟩
  exact hstar

/-! ### Readers of known tokens -/

theorem run_expectKeyword {k : Keyword} (ht : t.keyword? = some k) (stop : Nat) (ts : List Token) :
    (expectKeyword k).run stop (t :: ts) = (.ok (), ts) := by
  rw [expectKeyword, run_bind_ok (run_eatKeyword k stop t ts), if_pos ht, decide_eq_true ht]
  rfl

theorem run_eatKeyword_of_ne {k : Keyword} (ht : t.keyword? ≠ some k) (stop : Nat) (ts : List Token) :
    (eatKeyword k).run stop (t :: ts) = (.ok false, t :: ts) := by
  rw [run_eatKeyword, if_neg ht, decide_eq_false ht]

theorem run_expectClosing (ht : t.isSymbol ")" = true) (opening stop : Nat) (ts : List Token) :
    (expectClosing opening).run stop (t :: ts) = (.ok (), ts) := by
  rw [expectClosing, run_bind_ok (run_eatSymbol ")" stop t ts), ht]
  rfl

theorem run_expectIdentifier (ht : t.isIdentifier = true) (what : String) (stop : Nat) (ts : List Token) :
    (expectIdentifier what).run stop (t :: ts) = (.ok t.text, ts) := by
  rw [expectIdentifier, run_peek?_bind, List.head?_cons]
  dsimp only
  rw [if_pos ht]
  rfl

theorem run_qualifiedName (ht : t.isIdentifier = true) (hts : pointAndName? ts = none) (what : String) (stop : Nat) :
    (qualifiedName what).run stop (t :: ts) = (.ok t.text, ts) := by
  rw [qualifiedName, run_bind_ok (run_expectIdentifier ht what stop ts)]
  exact run_loop_of_none hts

/-- A single item. -/
theorem run_commaList {α : Type} {item : Parser α} {a : α} (h : item.run stop ts = (.ok a, rest))
    (hrest : rest.head?.filter isComma = none) : (commaList item).run stop ts = (.ok [a], rest) := by
  rw [commaList, sepBy1, run_bind_ok h, run_bind_ok (run_loop_of_none hrest)]
  rfl

theorem run_parenthesized {α : Type} {p : Parser α} {a : α} {t' : Token} (ht : t.isSymbol "(" = true)
    (h : p.run stop ts = (.ok a, t' :: rest)) (ht' : t'.isSymbol ")" = true) :
    (parenthesized p).run stop (t :: ts) = (.ok a, rest) := by
  have hopening := run_expectSymbol "(" stop t ts
  rw [if_pos ht] at hopening
  rw [parenthesized, run_bind_ok hopening, run_bind_ok h, run_bind_ok (run_expectClosing ht' _ _ _)]
  rfl

/-! ### Statements with one expression -/

section

variable {t₁ t₂ t₃ t₄ t₅ t₆ t₇ t₈ : Token}

theorem pointAndName?_cons (ht : t.isSymbol "." = false) (ts : List Token) : pointAndName? (t :: ts) = none := by
  cases ts with
  | nil => rfl
  | cons t' ts => simp [pointAndName?, ht]

theorem isSymbol_comma_of_closing (ht : t.isSymbol ")" = true) : t.isSymbol "," = false := by
  simp only [Token.isSymbol, Bool.and_eq_true, beq_iff_eq] at ht
  simp [Token.isSymbol, ht.2]

theorem keyword?_of_isSymbol {s : String} (ht : t.isSymbol s = true) : t.keyword? = none := by
  simp only [Token.isSymbol, Bool.and_eq_true, beq_iff_eq] at ht
  rw [Token.keyword?, ht.1]

theorem keyword?_of_isIdentifier (ht : t.isIdentifier = true) : t.keyword? = none := by
  rw [Token.isIdentifier] at ht
  split at ht
  · next hkind => rw [Token.keyword?, hkind]
  · exact Option.isNone_iff_eq_none.1 ht
  · cases ht

theorem isSymbol_of_keyword? {k : Keyword} (ht : t.keyword? = some k) (s : String) : t.isSymbol s = false := by
  rw [Token.keyword?] at ht
  split at ht
  · next hkind => simp [Token.isSymbol, hkind]
  · cases ht

/-- The condition is all that is left of the statement. -/
theorem run_delete (h₁ : t₁.keyword? = some .FROM) (h₂ : t₂.isIdentifier = true) (h₃ : t₃.keyword? = some .WHERE)
    (stop : Nat) (ts : List Token) : delete.run stop (t₁ :: t₂ :: t₃ :: ts) =
      (expression >>= fun e => pure { table := t₂.text, condition := some e } : Parser Delete).run stop ts := by
  have htable := run_qualifiedName h₂ (pointAndName?_cons (isSymbol_of_keyword? h₃ ".") ts) "table name" stop
  have hwhere : (eatKeyword .WHERE).run stop (t₃ :: ts) = (.ok true, ts) := by
    rw [run_eatKeyword, if_pos h₃, decide_eq_true h₃]
  rw [delete, run_bind_ok (run_expectKeyword h₁ _ _), run_bind_ok htable]
  generalize hrun : expression.run stop ts = outcome
  have hclause : whereClause.run stop (t₃ :: ts) = (expression >>= fun e => pure (some e)).run stop ts := by
    rw [whereClause, run_bind_ok hwhere]
    rfl
  obtain ⟨_ | e, rest⟩ := outcome
  · rw [run_bind_error hrun] at hclause ⊢
    exact run_bind_error hclause _
  · rw [run_bind_ok hrun] at hclause ⊢
    exact run_bind_ok hclause _

theorem run_select (h : expression.run stop ts = (.ok e, [])) : select.run stop ts = (.ok {
    distinct := false, columns := [.expr e none], table := none, condition := none, ordering := []
    limit := none, offset := none }, []) := by
  cases ts with
  | nil =>
    -- an expression needs a token
    obtain ⟨e', left, hrun⟩ := (Levels.needsOperand_levels nestingLimit).nil Precedence.lowest stop
    rw [expression, hrun] at h
    cases h
  | cons t ts =>
    obtain ⟨hstar, hnotDistinct, hnotAll⟩ := start_of_run_expression h
    have hdistinct : distinct.run stop (t :: ts) = (.ok false, t :: ts) := by
      rw [distinct, run_bind_ok (run_eatKeyword_of_ne hnotDistinct _ _)]
      show (eatKeyword .ALL >>= fun _ => pure false : Parser Bool).run stop (t :: ts) = _
      rw [run_bind_ok (run_eatKeyword_of_ne hnotAll _ _)]
      rfl
    have hmark : (eatSymbol "*").run stop (t :: ts) = (.ok false, t :: ts) := by
      rw [run_eatSymbol, hstar]
      rfl
    have hcolumn : resultColumn.run stop (t :: ts) = (.ok (.expr e none), []) := by
      rw [resultColumn, run_bind_ok hmark]
      show (expression >>= fun e => columnAlias >>= fun name => pure (.expr e name) : Parser ResultColumn).run stop
        (t :: ts) = _
      rw [run_bind_ok h]
      rfl
    rw [select, run_bind_ok hdistinct, run_bind_ok (run_commaList hcolumn rfl)]
    rfl

theorem run_update (h₁ : t₁.isIdentifier = true) (h₂ : t₂.keyword? = some .SET) (h₃ : t₃.isIdentifier = true)
    (h₄ : t₄.isSymbol "=" = true) (h : expression.run stop ts = (.ok e, [])) :
    update.run stop (t₁ :: t₂ :: t₃ :: t₄ :: ts) =
      (.ok { table := t₁.text, assignments := [(t₃.text, e)], condition := none }, []) := by
  have hpoint := pointAndName?_cons (isSymbol_of_keyword? h₂ ".") (t₃ :: t₄ :: ts)
  have htable := run_qualifiedName h₁ hpoint "table name" stop
  have hequals := run_expectSymbol "=" stop t₄ ts
  rw [if_pos h₄] at hequals
  have hassignment : assignment.run stop (t₃ :: t₄ :: ts) = (.ok (t₃.text, e), []) := by
    rw [assignment, run_bind_ok (run_expectIdentifier h₃ _ _ _), run_bind_ok hequals, run_bind_ok h]
    rfl
  rw [update, run_bind_ok htable, run_bind_ok (run_expectKeyword h₂ _ _), run_bind_ok (run_commaList hassignment rfl)]
  rfl

theorem run_insert (h₁ : t₁.keyword? = some .INTO) (h₂ : t₂.isIdentifier = true) (h₃ : t₃.keyword? = some .VALUES)
    (h₄ : t₄.isSymbol "(" = true) (h₅ : t₅.isSymbol ")" = true) (h : expression.run stop ts = (.ok e, [t₅])) :
    insert.run stop (t₁ :: t₂ :: t₃ :: t₄ :: ts) =
      (.ok { table := t₂.text, columns := [], rows := [[e]], onConflict := none }, []) := by
  have htable := run_qualifiedName h₂ (pointAndName?_cons (isSymbol_of_keyword? h₃ ".") (t₄ :: ts)) "table name" stop
  -- no columns are named
  have hunnamed : (nextIsSymbol "(").run stop (t₃ :: t₄ :: ts) = (.ok false, t₃ :: t₄ :: ts) := by
    rw [← isSymbol_of_keyword? h₃ "("]
    rfl
  have hopening := run_expectSymbol "(" stop t₄ ts
  rw [if_pos h₄] at hopening
  have hcomma : [t₅].head?.filter isComma = none := by
    rw [List.head?_cons, Option.filter_some, isComma, isSymbol_comma_of_closing h₅]
    rfl
  have hrow : (row []).run stop (t₄ :: ts) = (.ok [e], []) := by
    rw [row, run_bind_ok hopening, run_bind_ok (run_commaList h hcomma), run_bind_ok (run_expectClosing h₅ _ _ _)]
    rfl
  have hor : t₁.keyword? ≠ some .OR := by
    rw [h₁]
    decide
  rw [insert, run_bind_ok (run_eatKeyword_of_ne hor _ _)]
  show (insertInto none).run stop _ = _
  rw [insertInto, run_bind_ok (run_expectKeyword h₁ _ _), run_bind_ok htable, run_bind_ok hunnamed]
  show (expectKeyword .VALUES >>= fun _ => commaList (row []) >>= fun rows =>
    pure { table := t₂.text, columns := [], rows, onConflict := none } : Parser Insert).run stop (t₃ :: t₄ :: ts) = _
  rw [run_bind_ok (run_expectKeyword h₃ _ _), run_bind_ok (run_commaList hrow rfl)]
  rfl

/-- A column with a check and nothing else. -/
def checkedColumn (name : String) (e : Expr) : Column where
  name := name
  type := none
  nullable := true
  default := none
  constraints := [{ name := none, kind := .check e }]

theorem run_column (h₁ : t₁.isIdentifier = true) (h₂ : t₂.keyword? = some .CHECK) (h₃ : t₃.isSymbol "(" = true)
    (h₄ : t₄.isSymbol ")" = true) (h₅ : t₅.isSymbol ")" = true) (h : expression.run stop ts = (.ok e, [t₄, t₅])) :
    column.run stop (t₁ :: t₂ :: t₃ :: ts) = (.ok (checkedColumn t₁.text e), [t₅]) := by
  have huntyped : typeWord? (t₂ :: t₃ :: ts) = none := by
    rw [typeWord?, List.head?_cons, Option.filter_some, h₂]
    simp
  have htype : typeName?.run stop (t₂ :: t₃ :: ts) = (.ok none, t₂ :: t₃ :: ts) := by
    have hwords : typeWords.run stop (t₂ :: t₃ :: ts) = (.ok [], t₂ :: t₃ :: ts) := by
      rw [typeWords, run_bind_ok (run_loop_of_none huntyped)]
      rfl
    rw [typeName?, run_bind_ok hwords]
    rfl
  have hcheck : columnWord? (t₂ :: t₃ :: ts) = some .CHECK := by
    rw [columnWord?, List.head?_cons, Option.bind_some, h₂]
    rfl
  have hend : columnWord? [t₅] = none := by
    rw [columnWord?, List.head?_cons, Option.bind_some, keyword?_of_isSymbol h₅]
    rfl
  have hclause : (parenthesized expression).run stop (t₃ :: ts) = (.ok e, [t₅]) := run_parenthesized h₃ h h₄
  rw [column, run_bind_ok (run_expectIdentifier h₁ _ _ _), run_bind_ok htype,
    run_loop_step (List.cons_ne_nil _ _) hcheck (run_bind_ok hclause _), run_loop_of_none hend]
  rfl

theorem run_createTable (h₁ : t₁.keyword? = some .TABLE) (h₂ : t₂.isIdentifier = true) (h₃ : t₃.isSymbol "(" = true)
    (h₄ : t₄.isIdentifier = true) (h₅ : t₅.keyword? = some .CHECK) (h₆ : t₆.isSymbol "(" = true)
    (h₇ : t₇.isSymbol ")" = true) (h₈ : t₈.isSymbol ")" = true) (h : expression.run stop ts = (.ok e, [t₇, t₈])) :
    createTable.run stop (t₁ :: t₂ :: t₃ :: t₄ :: t₅ :: t₆ :: ts) = (.ok {
      name := t₂.text
      columns := [checkedColumn t₄.text e]
      constraints := []
      ifNotExists := false }, []) := by
  have hexists : ifNotExists.run stop (t₂ :: t₃ :: t₄ :: t₅ :: t₆ :: ts) =
      (.ok false, t₂ :: t₃ :: t₄ :: t₅ :: t₆ :: ts) := by
    have hif : t₂.keyword? ≠ some .IF := by
      rw [keyword?_of_isIdentifier h₂]
      nofun
    rw [ifNotExists, run_bind_ok (run_eatKeyword_of_ne hif _ _)]
    rfl
  have hopening := run_expectSymbol "(" stop t₃ (t₄ :: t₅ :: t₆ :: ts)
  rw [if_pos h₃] at hopening
  have hpoint : t₃.isSymbol "." = false := by
    simp only [Token.isSymbol, Bool.and_eq_true, beq_iff_eq] at h₃
    simp [Token.isSymbol, h₃.2]
  have htable := run_qualifiedName h₂ (pointAndName?_cons hpoint (t₄ :: t₅ :: t₆ :: ts)) "table name" stop
  have hcomma : commaAhead? [t₈] = none := by
    rw [commaAhead?, List.head?_cons, Option.filter_some, isComma, isSymbol_comma_of_closing h₈]
    rfl
  -- the column is the only part of the table
  have hpart : (tablePart { columns := [], constraints := [] }).run stop (t₄ :: t₅ :: t₆ :: ts) = (.ok {
      columns := [checkedColumn t₄.text e]
      constraints := [] }, [t₈]) := by
    have hword : peekKeyword?.run stop (t₄ :: t₅ :: t₆ :: ts) = (.ok none, t₄ :: t₅ :: t₆ :: ts) := by
      rw [← keyword?_of_isIdentifier h₄]
      rfl
    rw [tablePart, run_bind_ok hword]
    show (column >>= fun c => pure { columns := [] ++ [c], constraints := [] } : Parser TableParts).run stop _ = _
    rw [run_bind_ok (run_column h₄ h₅ h₆ h₇ h₈ h)]
    rfl
  have hparts : tableParts.run stop (t₄ :: t₅ :: t₆ :: ts) = (.ok {
      columns := [checkedColumn t₄.text e]
      constraints := [] }, [t₈]) := by
    rw [tableParts, run_bind_ok hpart]
    exact run_loop_of_none hcomma
  rw [createTable, run_bind_ok (run_expectKeyword h₁ _ _), run_bind_ok hexists, run_bind_ok htable,
    run_bind_ok hopening, run_bind_ok hparts, run_bind_ok (run_expectClosing h₈ _ _ _)]
  rfl

end

/-! ### A formula in another text -/

theorem run_expression_atEnd (pre : String) {f : String} (h : expression.run f.utf8ByteSize ts = (.ok e, [])) :
    expression.run (pre ++ f).utf8ByteSize (ts.map (Token.shift pre.utf8ByteSize)) = (.ok e, []) := by
  have hfar := (atEnd f.utf8ByteSize pre.utf8ByteSize).alongside_expression.run_ok h
  rw [far_atEnd, far_atEnd] at hfar
  rw [String.utf8ByteSize_append, Nat.add_comm]
  exact hfar

/-- A text in front of a closing parenthesis. -/
def beforeClosing (stop farStop distance : Nat) (t : Token) (ts : List Token) (ht : t.isSymbol ")" = true) :
    Relocation where
  stop := stop
  farStop := farStop
  distance := distance
  tail := t :: ts
  boundary := by
    rintro _ ⟨⟩
    exact .inr ht
  farStop_eq := nofun

theorem run_expression_beforeClosing (ht : t.isSymbol ")" = true) (h : expression.run stop ts = (.ok e, []))
    (farStop distance : Nat) (rest : List Token) :
    expression.run farStop (ts.map (Token.shift distance) ++ t :: rest) = (.ok e, t :: rest) :=
  (beforeClosing stop farStop distance t rest ht).alongside_expression.run_ok h

/-! ### Statements from their tokens -/

theorem run_statementFrom {word : Keyword} {body : Parser Statement} (ht : t.keyword? = some word)
    (hbody : statementBody? word = some body) (stop : Nat) (ts : List Token) :
    (statementFrom t).run stop (t :: ts) = body.run stop ts := by
  rw [statementFrom, ht, Option.bind_some, hbody]
  rfl

theorem parseStatements_eq_single {text : String} (word : Keyword) {body : Parser Statement} {s : Statement}
    (htext : tokenize text = .ok (t :: ts)) (ht : t.keyword? = some word) (hbody : statementBody? word = some body)
    (hrun : body.run text.utf8ByteSize ts = (.ok s, [])) : parseStatements text = .ok [s] := by
  have hstatement := run_statementFrom ht hbody text.utf8ByteSize ts
  rw [hrun] at hstatement
  rw [parseStatements_eq htext, run_sequence_statement (isSymbol_of_keyword? ht ";")
    (run_sequenceItem_ok hstatement rfl _), run_sequence_nil]
  rfl

/-- The first statement of a sequence ends with a semicolon or with the text. -/
theorem exists_of_parseStatements {text : String} {word : Keyword} {body : Parser Statement} {ss : List Statement}
    (htext : tokenize text = .ok (t :: ts)) (ht : t.keyword? = some word) (hbody : statementBody? word = some body)
    (h : parseStatements text = .ok ss) : ∃ s rest, body.run text.utf8ByteSize ts = (.ok s, rest) ∧
      ∀ u ∈ rest.head?, u.isSymbol ";" = true := by
  have hstatement := run_statementFrom ht hbody text.utf8ByteSize ts
  have hfirst := isSymbol_of_keyword? ht ";"
  rw [parseStatements_eq htext] at h
  generalize hrun : body.run text.utf8ByteSize ts = outcome at hstatement ⊢
  obtain ⟨_ | s, rest⟩ := outcome
  · rw [run_sequence_error hfirst (run_sequenceItem_error hstatement _)] at h
    cases h
  · refine ⟨s, rest, rfl, ?_⟩
    rintro u hu
    obtain ⟨us, rfl⟩ : ∃ us, rest = u :: us := by
      cases rest with
      | nil => cases hu
      | cons v us =>
        cases hu
        exact ⟨us, rfl⟩
    -- anything else behind the statement would be refused
    by_contra hsemicolon
    have hend := run_endOfStatement text.utf8ByteSize u us
    rw [if_neg hsemicolon] at hend
    rw [run_sequence_error hfirst (run_sequenceItem_endError hstatement hend _)] at h
    cases h

theorem keyword?_of_content {k : Keyword} (ht : t.content = keywordToken k) : t.keyword? = some k :=
  (keyword?_eq ht).trans (keywordContent?_keywordToken k)

/-- The names of the table and the column are not reserved. -/
theorem lookup_plainName {s : String} (hs : s = "t" ∨ s = "c") : Keyword.lookup s = none := by
  rcases hs with rfl | rfl <;> decide

theorem isIdentifier_of_content {s : String} (ht : t.content = (.word, s)) (hs : s = "t" ∨ s = "c") :
    t.isIdentifier = true ∧ t.text = s := by
  obtain ⟨hkind, htext⟩ := Prod.ext_iff.1 ht
  change t.kind = .word at hkind
  change t.text = s at htext
  rw [Token.isIdentifier, hkind]
  exact ⟨by rw [keyword?_eq ht]; exact Option.isNone_iff_eq_none.2 (lookup_plainName hs), htext⟩

theorem isWord_t : IsWord "t" :=
  isWord_of_ascii (by decide)

theorem isWord_c : IsWord "c" :=
  isWord_of_ascii (by decide)

/-- What is written in front of a condition. -/
theorem opens_delete : Opens "DELETE FROM t WHERE ".toList
    [keywordToken .DELETE, keywordToken .FROM, (.word, "t"), keywordToken .WHERE] :=
  (Opens.nil.word (isWord_display .WHERE) |>.word isWord_t |>.word (isWord_display .FROM)
    |>.word (isWord_display .DELETE)).of_eq (by decide)

/-- What is written in front of a result column. -/
theorem opens_select : Opens "SELECT ".toList [keywordToken .SELECT] :=
  (Opens.nil.word (isWord_display .SELECT)).of_eq (by decide)

/-- What is written in front of an assigned value. -/
theorem opens_update : Opens "UPDATE t SET c = ".toList
    [keywordToken .UPDATE, (.word, "t"), keywordToken .SET, (.word, "c"), (.symbol, "=")] :=
  (Opens.nil.mark (c := '=') (by decide) |>.word isWord_c |>.word (isWord_display .SET) |>.word isWord_t
    |>.word (isWord_display .UPDATE)).of_eq (by decide)

/-- What is written in front of an inserted value. -/
theorem opens_insert : Opens "INSERT INTO t VALUES (".toList
    [keywordToken .INSERT, keywordToken .INTO, (.word, "t"), keywordToken .VALUES, (.symbol, "(")] :=
  (Opens.nil.punctuation (c := '(') (by decide) |>.word (isWord_display .VALUES) |>.word isWord_t
    |>.word (isWord_display .INTO) |>.word (isWord_display .INSERT)).of_eq (by decide)

/-- What is written in front of a check. -/
theorem opens_createTable : Opens "CREATE TABLE t (c CHECK (".toList
    [keywordToken .CREATE, keywordToken .TABLE, (.word, "t"), (.symbol, "("), (.word, "c"), keywordToken .CHECK,
      (.symbol, "(")] :=
  (Opens.nil.punctuation (c := '(') (by decide) |>.word (isWord_display .CHECK) |>.word isWord_c
    |>.punctuation (c := '(') (by decide) |>.word isWord_t |>.word (isWord_display .TABLE)
    |>.word (isWord_display .CREATE)).of_eq (by decide)

theorem tokenize_closing : tokenize ")" = .ok [⟨.symbol, ")", 0⟩] ∧
    tokenize "))" = .ok [⟨.symbol, ")", 0⟩, ⟨.symbol, ")", 1⟩] := by
  with_unfolding_all decide

section

variable {f : String} (hts : tokenize f = .ok ts)
include hts

theorem parseStatements_delete (h : expression.run f.utf8ByteSize ts = (.ok e, [])) :
    parseStatements ("DELETE FROM t WHERE " ++ f) = .ok [.delete { table := "t", condition := some e }] := by
  obtain ⟨ps, hps, htext⟩ := tokenize_opens opens_delete hts
  simp only [List.map_eq_cons_iff, List.map_eq_nil_iff] at hps
  obtain ⟨t₀, _, rfl, h₀, t₁, _, rfl, h₁, t₂, _, rfl, h₂, t₃, _, rfl, h₃, rfl⟩ := hps
  obtain ⟨htable, hname⟩ := isIdentifier_of_content h₂ (.inl rfl)
  refine parseStatements_eq_single .DELETE htext (keyword?_of_content h₀) rfl ?_
  have hdelete := run_delete (keyword?_of_content h₁) htable
    (keyword?_of_content h₃) ("DELETE FROM t WHERE " ++ f).utf8ByteSize
    (ts.map (Token.shift "DELETE FROM t WHERE ".utf8ByteSize))
  rw [run_bind_ok (run_expression_atEnd _ h), hname] at hdelete
  exact run_bind_ok hdelete _

theorem parseStatements_select (h : expression.run f.utf8ByteSize ts = (.ok e, [])) :
    parseStatements ("SELECT " ++ f) = .ok [.select {
      distinct := false, columns := [.expr e none], table := none, condition := none, ordering := []
      limit := none, offset := none }] := by
  obtain ⟨ps, hps, htext⟩ := tokenize_opens opens_select hts
  simp only [List.map_eq_cons_iff, List.map_eq_nil_iff] at hps
  obtain ⟨t₀, _, rfl, h₀, rfl⟩ := hps
  refine parseStatements_eq_single .SELECT htext (keyword?_of_content h₀) rfl ?_
  exact run_bind_ok (run_select (run_expression_atEnd _ h)) _

theorem parseStatements_update (h : expression.run f.utf8ByteSize ts = (.ok e, [])) :
    parseStatements ("UPDATE t SET c = " ++ f) =
      .ok [.update { table := "t", assignments := [("c", e)], condition := none }] := by
  obtain ⟨ps, hps, htext⟩ := tokenize_opens opens_update hts
  simp only [List.map_eq_cons_iff, List.map_eq_nil_iff] at hps
  obtain ⟨t₀, _, rfl, h₀, t₁, _, rfl, h₁, t₂, _, rfl, h₂, t₃, _, rfl, h₃, t₄, _, rfl, h₄, rfl⟩ := hps
  obtain ⟨htable, hname⟩ := isIdentifier_of_content h₁ (.inl rfl)
  obtain ⟨hcolumn, hcolumnName⟩ := isIdentifier_of_content h₃ (.inr rfl)
  refine parseStatements_eq_single .UPDATE htext (keyword?_of_content h₀) rfl ?_
  have hupdate := run_update htable (keyword?_of_content h₂) hcolumn
    ((isSymbol_eq h₄ "=").trans (by decide)) (run_expression_atEnd "UPDATE t SET c = " h)
  rw [hname, hcolumnName] at hupdate
  exact run_bind_ok hupdate _

theorem parseStatements_insert (hclosed : endsInComment f.toList = false)
    (h : expression.run f.utf8ByteSize ts = (.ok e, [])) :
    parseStatements ("INSERT INTO t VALUES (" ++ f ++ "\n)") =
      .ok [.insert { table := "t", columns := [], rows := [[e]], onConflict := none }] := by
  obtain ⟨ps, qs, hps, hqs, htext⟩ := tokenize_between opens_insert hts hclosed tokenize_closing.1
  simp only [List.map_eq_cons_iff, List.map_eq_nil_iff, List.map_cons, List.map_nil] at hps hqs
  obtain ⟨t₀, _, rfl, h₀, t₁, _, rfl, h₁, t₂, _, rfl, h₂, t₃, _, rfl, h₃, t₄, _, rfl, h₄, rfl⟩ := hps
  obtain ⟨t₅, _, rfl, h₅, rfl⟩ := hqs
  rw [String.append_assoc] at htext
  obtain ⟨htable, hname⟩ := isIdentifier_of_content h₂ (.inl rfl)
  have hclosing : t₅.isSymbol ")" = true := (isSymbol_eq h₅ ")").trans (by decide)
  refine parseStatements_eq_single .INSERT htext (keyword?_of_content h₀) rfl ?_
  have hinsert := run_insert (keyword?_of_content h₁) htable
    (keyword?_of_content h₃) ((isSymbol_eq h₄ "(").trans (by decide)) hclosing
    (run_expression_beforeClosing hclosing h ("INSERT INTO t VALUES (" ++ f ++ "\n)").utf8ByteSize
      "INSERT INTO t VALUES (".utf8ByteSize [])
  rw [hname] at hinsert
  exact run_bind_ok hinsert _

theorem parseStatements_createTable (hclosed : endsInComment f.toList = false)
    (h : expression.run f.utf8ByteSize ts = (.ok e, [])) :
    parseStatements ("CREATE TABLE t (c CHECK (" ++ f ++ "\n))") = .ok [.createTable {
      name := "t", columns := [checkedColumn "c" e], constraints := [], ifNotExists := false }] := by
  obtain ⟨ps, qs, hps, hqs, htext⟩ := tokenize_between opens_createTable hts hclosed tokenize_closing.2
  simp only [List.map_eq_cons_iff, List.map_eq_nil_iff, List.map_cons, List.map_nil] at hps hqs
  obtain ⟨t₀, _, rfl, h₀, t₁, _, rfl, h₁, t₂, _, rfl, h₂, t₃, _, rfl, h₃, t₄, _, rfl, h₄, t₅, _, rfl, h₅, t₆, _, rfl,
    h₆, rfl⟩ := hps
  obtain ⟨t₇, _, rfl, h₇, t₈, _, rfl, h₈, rfl⟩ := hqs
  rw [String.append_assoc] at htext
  obtain ⟨htable, hname⟩ := isIdentifier_of_content h₂ (.inl rfl)
  obtain ⟨hcolumn, hcolumnName⟩ := isIdentifier_of_content h₄ (.inr rfl)
  have hclosing : t₇.isSymbol ")" = true := (isSymbol_eq h₇ ")").trans (by decide)
  refine parseStatements_eq_single .CREATE htext (keyword?_of_content h₀) rfl ?_
  have hcreate := run_createTable (keyword?_of_content h₁) htable
    ((isSymbol_eq h₃ "(").trans (by decide)) hcolumn (keyword?_of_content h₅)
    ((isSymbol_eq h₆ "(").trans (by decide)) hclosing ((isSymbol_eq h₈ ")").trans (by decide))
    (run_expression_beforeClosing hclosing h ("CREATE TABLE t (c CHECK (" ++ f ++ "\n))").utf8ByteSize
      "CREATE TABLE t (c CHECK (".utf8ByteSize [t₈])
  rw [hname, hcolumnName] at hcreate
  exact run_bind_ok hcreate _

/-- A condition that takes all tokens is a formula. -/
theorem exists_of_parseStatements_delete (hsemicolon : ∀ t ∈ ts, t.isSymbol ";" = false) {ss : List Statement}
    (h : parseStatements ("DELETE FROM t WHERE " ++ f) = .ok ss) :
    ∃ e, expression.run f.utf8ByteSize ts = (.ok e, []) := by
  obtain ⟨ps, hps, htext⟩ := tokenize_opens opens_delete hts
  simp only [List.map_eq_cons_iff, List.map_eq_nil_iff] at hps
  obtain ⟨t₀, _, rfl, h₀, t₁, _, rfl, h₁, t₂, _, rfl, h₂, t₃, _, rfl, h₃, rfl⟩ := hps
  obtain ⟨s, rest, hrun, hend⟩ := exists_of_parseStatements htext
    (keyword?_of_content h₀) rfl h
  have hdelete := run_delete (keyword?_of_content h₁)
    (isIdentifier_of_content h₂ (.inl rfl)).1 (keyword?_of_content h₃)
    ("DELETE FROM t WHERE " ++ f).utf8ByteSize (ts.map (Token.shift "DELETE FROM t WHERE ".utf8ByteSize))
  have hexpression := (atEnd f.utf8ByteSize "DELETE FROM t WHERE ".utf8ByteSize).alongside_expression
  have hsize : ("DELETE FROM t WHERE " ++ f).utf8ByteSize = f.utf8ByteSize + "DELETE FROM t WHERE ".utf8ByteSize := by
    rw [String.utf8ByteSize_append, Nat.add_comm]
  rw [hsize] at hdelete hrun
  -- the tokens of the condition are read as an expression in the batch and on their own
  have hsuffix := expression.suffix f.utf8ByteSize ts
  generalize hnear : expression.run f.utf8ByteSize ts = outcome at hsuffix
  obtain ⟨_ | e, left⟩ := outcome
  · obtain ⟨e', far, hfar⟩ := hexpression.run_error nofun hnear
    rw [farStop_atEnd, far_atEnd] at hfar
    rw [run_bind_error hfar] at hdelete
    have hfailed := run_bind_error hdelete fun d => pure (Statement.delete d)
    exact absurd (hrun.symm.trans hfailed) nofun
  · have hfar := hexpression.run_ok hnear
    rw [farStop_atEnd, far_atEnd, far_atEnd] at hfar
    rw [run_bind_ok hfar] at hdelete
    have hread := run_bind_ok hdelete fun d => pure (Statement.delete d)
    obtain ⟨-, rfl⟩ := Prod.ext_iff.1 (hrun.symm.trans hread)
    cases left with
    | nil => exact ⟨e, rfl⟩
    | cons u us =>
      have hu : (u.shift "DELETE FROM t WHERE ".utf8ByteSize).isSymbol ";" = true := hend _ rfl
      rw [Token.isSymbol_shift, hsemicolon u (hsuffix.subset List.mem_cons_self)] at hu
      cases hu

end

end Parser

open SqlFormula.Parser in
/-- **Formulas are read alike in formulas and in statements.** A text without semicolons is a formula exactly if it is a
condition, and the expression is the same in every clause that can have one. -/
theorem parseStatements_of_parseFormula {f : String}
    (hsemicolon : ∀ ts, tokenize f = .ok ts → ∀ t ∈ ts, t.isSymbol ";" = false)
    (hclosed : endsInComment f.toList = false) :
    (∀ e, parseFormula f = .ok e →
      parseStatements ("DELETE FROM t WHERE " ++ f) = .ok [.delete { table := "t", condition := some e }] ∧
      parseStatements ("SELECT " ++ f) = .ok [.select {
        distinct := false, columns := [.expr e none], table := none, condition := none, ordering := []
        limit := none, offset := none }] ∧
      parseStatements ("UPDATE t SET c = " ++ f) =
        .ok [.update { table := "t", assignments := [("c", e)], condition := none }] ∧
      parseStatements ("INSERT INTO t VALUES (" ++ f ++ "\n)") =
        .ok [.insert { table := "t", columns := [], rows := [[e]], onConflict := none }] ∧
      parseStatements ("CREATE TABLE t (c CHECK (" ++ f ++ "\n))") = .ok [.createTable {
        name := "t"
        columns := [{
          name := "c", type := none, nullable := true, default := none
          constraints := [{ name := none, kind := .check e }] }]
        constraints := []
        ifNotExists := false }]) ∧
    ∀ ss, parseStatements ("DELETE FROM t WHERE " ++ f) = .ok ss →
      ∃ e, parseFormula f = .ok e ∧ ss = [.delete { table := "t", condition := some e }] := by
  constructor
  · intro e he
    cases hts : tokenize f with
    | error e =>
      rw [parseFormula, runOn, hts] at he
      cases he
    | ok ts =>
      have h := (parseFormula_eq_ok_iff hts (hsemicolon ts hts)).1 he
      exact ⟨parseStatements_delete hts h, parseStatements_select hts h, parseStatements_update hts h,
        parseStatements_insert hts hclosed h, parseStatements_createTable hts hclosed h⟩
  · intro ss hss
    cases htext : tokenize ("DELETE FROM t WHERE " ++ f) with
    | error e =>
      rw [parseStatements, runOn, htext] at hss
      cases hss
    | ok us =>
      obtain ⟨ts, hts⟩ := exists_tokenize_of_opens opens_delete htext
      obtain ⟨e, h⟩ := exists_of_parseStatements_delete hts (hsemicolon ts hts) hss
      rw [parseStatements_delete hts h] at hss
      exact ⟨e, (parseFormula_eq_ok_iff hts (hsemicolon ts hts)).2 h, (Except.ok.inj hss).symm⟩

/-- A condition on a column and a number. -/
theorem parseStatements_of_comparison :
    (∀ ts, tokenize "a < 1" = .ok ts → ∀ t ∈ ts, t.isSymbol ";" = false) ∧ endsInComment "a < 1".toList = false ∧
      ∃ e, parseFormula "a < 1" = .ok e ∧
        parseStatements ("UPDATE t SET c = " ++ "a < 1") =
          .ok [.update { table := "t", assignments := [("c", e)], condition := none }] := by
  have hts : tokenize "a < 1" = .ok [⟨.word, "a", 0⟩, ⟨.symbol, "<", 2⟩, ⟨.number, "1", 4⟩] := by decide +kernel
  have hsemicolon (ts : List Token) (h : tokenize "a < 1" = .ok ts) : ∀ t ∈ ts, t.isSymbol ";" = false := by
    rw [hts] at h
    cases h
    decide
  have hclosed : endsInComment "a < 1".toList = false := by decide +kernel
  have hmodes := (parseStatements_of_parseFormula hsemicolon hclosed).1
  refine ⟨hsemicolon, hclosed, ?_⟩
  have hformula : (parseFormula "a < 1").isOk = true := by decide +kernel
  cases he : parseFormula "a < 1" with
  | error e =>
    rw [he] at hformula
    cases hformula
  | ok e => exact ⟨e, rfl, (hmodes e he).2.2.1⟩

end SqlFormula
