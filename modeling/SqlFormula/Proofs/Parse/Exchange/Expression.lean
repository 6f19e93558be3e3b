import SqlFormula.Proofs.Parse.Alongside.Expression
import SqlFormula.Proofs.Parse.Exchange.Basic

/-!
# An expression in front of other tokens

An expression depends only on its own tokens. They may have stood in front of any others: where these are exchanged for
tokens that end an expression, or for none, the same expression is read from the same tokens.

## Main definitions

- `Parser.Levels.Keeping` — the readers of one level keep their results

## Main statements

- `Parser.Levels.Keeping.unary`, `Parser.Levels.Keeping.extend` — so do those of the next level
- `Parser.run_expression_exchange`
-/

namespace SqlFormula.Parser

open Reader Exchange

variable {x : Exchange} {n : Nat} {α : Type}

namespace Levels

variable (inner : Levels)

/-! ### Expressions have tokens -/

/-- The readers of a level take a token. -/
structure Advancing (l : Levels) : Prop where
  operand : l.operand.Advances
  expression : ∀ least, (l.expression least).Advances

theorem advances_primary : inner.primary.Advances := by
  intro ts
  cases ts with
  | nil => exact (rejects_endOfInput _).advancesOn
  | cons t ts =>
    obtain ⟨kind, content, offset⟩ := t
    refine advancesOn_peek?_bind ?_
    cases kind with
    | number => exact advancesOn_skip_bind
    | string => exact advancesOn_skip_bind
    | blob => exact advancesOn_skip_bind
    | quotedIdentifier => exact advancesOn_skip_bind
    | symbol => exact advancesOn_ite (fun _ => advances_parenthesized _ _) fun _ => advances_fail _ _
    | word => exact (advances_nextToken _).bind _ _

/-- Reads an operand that is not negated by a word. -/
def signedOperand : Parser Expr := do
  match (← peek?).bind signOperator? with
  | some op =>
    skip 1
    inner.signed op
  | none => inner.primary

theorem unary_eq : inner.unary = (do
    if ← eatKeyword .NOT then return .unary .not (← inner.expression Precedence.not)
    else inner.signedOperand) :=
  rfl

theorem advances_signedOperand : inner.signedOperand.Advances := by
  intro ts
  cases ts with
  | nil => exact inner.advances_primary []
  | cons t ts =>
    show AdvancesOn (match (some t).bind signOperator? with | some op => _ | none => _) (t :: ts)
    cases (some t).bind signOperator? with
    | some op => exact advancesOn_skip_bind
    | none => exact inner.advances_primary (t :: ts)

theorem advances_unary : inner.unary.Advances :=
  fun ts => advancesOn_eatKeyword_bind (inner.advances_signedOperand ts)

theorem advancing_levels (n : Nat) : (levels n).Advancing := by
  cases n with
  | zero =>
    have hdeep : Advances tooDeep := advances_bind fun _ => advances_fail _
    exact { operand := hdeep, expression := fun _ => hdeep }
  | succ n =>
    exact { operand := (levels n).advances_unary
            expression := fun least => (levels n).advances_unary.bind _ }

variable {inner}

theorem advances_malformedArguments (function reason : String) :
    Advances (malformedArguments function reason : Parser α) :=
  advances_bind fun _ => advances_fail _

theorem Advancing.argument (h : inner.Advancing) (function : String) : (inner.argument function).Advances := by
  refine advances_bind fun closing => advances_bind fun comma ts => ?_
  exact advancesOn_ite (fun _ => advances_malformedArguments _ _ ts) fun _ => h.expression _ ts

theorem advances_closeCall (function : String) (opening : Nat) : (closeCall function opening).Advances := by
  intro ts
  cases ts with
  | nil => exact Rejects.advancesOn fun stop => ⟨_, [], rfl⟩
  | cons t ts =>
    refine advancesOn_ite (p := skip 1) (fun _ stop a left hrun => ?_) fun _ => advances_malformedArguments _ _ _
    cases hrun
    exact Nat.lt_succ_self _

/-- The arguments of a call that are written out, and its closing parenthesis. -/
def listedArguments (inner : Levels) (function : String) (opening : Nat) : Parser (List Expr) := do
  if ← nextIsKeyword .DISTINCT then malformedArguments function "DISTINCT is not supported"
  else
    let args ← commaList (inner.argument function)
    closeCall function opening
    pure args

theorem run_someArguments (f : Builtin) (function : String) (opening stop : Nat) (ts : List Token) :
    (inner.someArguments f function opening).run stop ts =
      if f = .count ∧ isStarAlone ts then (.ok [], ts.drop 2)
      else (inner.listedArguments function opening).run stop ts := by
  show Reader.run (if f = .count ∧ isStarAlone ts then _ else _) stop ts = _
  split
  · rfl
  · rfl

theorem Advancing.listedArguments (h : inner.Advancing) (function : String) (opening : Nat) :
    (inner.listedArguments function opening).Advances := by
  refine advances_bind fun _ ts => advancesOn_ite (fun _ => advances_malformedArguments _ _ ts) fun _ => ?_
  exact (h.argument function).commaList.bind _ ts

theorem Advancing.someArguments (h : inner.Advancing) (f : Builtin) (function : String) (opening : Nat) :
    (inner.someArguments f function opening).Advances := by
  intro ts stop args left hrun
  rw [run_someArguments] at hrun
  split at hrun
  · next hcount =>
    obtain ⟨star, closing, rest, rfl⟩ := Steady.exists_of_isStarAlone hcount.2
    cases hrun
    simp
  · exact h.listedArguments function opening ts stop args left hrun

/-! ### The readers of a level -/

/-- The readers of a level keep their results. -/
structure Keeping (x : Exchange) (l : Levels) : Prop where
  operand : x.Keeps 0 l.operand
  expression : ∀ least, x.Keeps 0 (l.expression least)
  advancing : l.Advancing
  needsOperand : l.NeedsOperand

theorem keeps_malformedArguments (function reason : String) :
    x.Keeps n (malformedArguments function reason : Parser α) :=
  keeps_offset_fail _

theorem keeps_malformedCase (reason : String) : x.Keeps n (malformedCase reason : Parser α) :=
  keeps_offset_fail _

theorem keeps_collationName : x.Keeps n collationName := by
  refine (keeps_nextToken _).bind fun t => keeps_ite (fun _ => ?_) fun _ => keeps_fail _
  cases Collation.lookup t.text with
  | some c => exact keeps_pure c
  | none => exact keeps_fail _

/-! ### Declared types -/

theorem keeps_typeWords : x.Keeps 1 typeWords :=
  Keeps.map (keeps_loop_of_head rfl (fun _ _ _ => rfl) (fun _ ts word words => keeps_pure (word :: words) ts) []) _

/-- The number of a size, after its sign. -/
def unsignedSize (negative : Bool) : Parser (Option Int64) := do
  let t ← nextToken "type size"
  if t.kind = .number then return sizeOf (← ofExcept (numberValue t negative))
  else fail (unexpected t "type size")

theorem keeps_unsignedSize (negative : Bool) : x.Keeps n (unsignedSize negative) :=
  (keeps_nextToken _).bind fun _ => keeps_ite (fun _ => (keeps_ofExcept _).map _) fun _ => keeps_fail _

theorem keeps_typeSize : x.Keeps n typeSize := by
  have hadvances (negative : Bool) : (unsignedSize negative).Advances := (advances_nextToken _).bind _
  have hplus : x.Keeps n (eatSymbol "+" >>= fun _ => unsignedSize false) :=
    keeps_of_cons (advances_bind fun _ => hadvances _) fun t ts => (keepsOn_eatSymbol "+").bind fun _ =>
      keeps_unsignedSize _
  refine keeps_of_cons (advances_bind fun negative => ?_) fun t ts => (keepsOn_eatSymbol "-").bind fun negative => ?_
  · cases negative with
    | true => exact hadvances true
    | false => exact advances_bind fun _ => hadvances false
  · cases negative with
    | true => exact keeps_unsignedSize true
    | false => exact hplus

theorem keeps_typeName? : x.Keeps 1 typeName? := by
  refine keeps_typeWords.bind fun words => keeps_ite (fun _ => keeps_pure _) fun _ => ?_
  refine (keeps_nextIsSymbol "(").bind fun sized => keeps_ite (fun _ => ?_) fun _ => keeps_pure _
  exact keeps_typeSize.commaList.parenthesized.map _

namespace Keeping

variable (h : inner.Keeping x)
include h

/-! ### Calls -/

theorem argument (function : String) : x.Keeps n (inner.argument function) := by
  refine keeps_of_cons (h.advancing.argument function) fun t ts => ?_
  refine keepsOn_nextIsSymbol_bind (keepsOn_nextIsSymbol_bind (keepsOn_ite (fun _ => ?_) fun _ => ?_))
  · exact keeps_malformedArguments _ _ _
  · exact (h.expression _ _).mono (Nat.zero_le n)

omit h in
theorem closeCall (function : String) (opening : Nat) : x.Keeps n (closeCall function opening) := by
  refine keeps_of_cons (advances_closeCall function opening) fun t ts => keepsOn_peek?_bind ?_
  exact keepsOn_ite (fun _ => keepsOn_of_run ts rfl rfl) fun _ => keeps_malformedArguments _ _ _

theorem listedArguments (function : String) (opening : Nat) : x.Keeps n (inner.listedArguments function opening) := by
  refine (keeps_nextIsKeyword _).bind_advancing (fun distinct ts => ?_) fun distinct => ?_
  · refine advancesOn_ite (fun _ => advances_malformedArguments _ _ ts) fun _ => ?_
    exact (h.advancing.argument function).commaList.bind _ ts
  · refine keeps_ite (fun _ => keeps_malformedArguments _ _) fun _ => ?_
    refine (h.argument function).commaList.bind_advancing (fun args => ?_) fun args => ?_
    · exact (advances_closeCall function opening).bind _
    · exact (closeCall function opening).map fun _ => args

/-- A last token in front of the exchanged ones is not a star that stands alone, and does not become one. -/
theorem someArguments_one (t : Token) (function : String) (opening : Nat) :
    x.KeepsOn n [t] (inner.someArguments .count function opening) := by
  by_cases halone : isStarAlone ([t] ++ x.rest) = true
  · -- the parenthesis behind the star would be taken from the exchanged tokens
    intro args left _ hrun
    rw [run_someArguments, if_pos ⟨rfl, halone⟩] at hrun
    obtain ⟨star, closing, rest, hrest⟩ := Steady.exists_of_isStarAlone halone
    have hleft := congrArg List.length (Prod.mk.inj hrun).2
    have hlength := congrArg List.length hrest
    simp only [List.length_drop, List.length_append, List.length_cons, List.length_nil] at hleft hlength
    omega
  · by_cases hstar : t.isSymbol "*" = true
    · have hhead : ∀ t' ∈ ([t] ++ x.rest).head?, t'.isSymbol "*" = true := by
        intro t' ht'
        cases ht'
        exact hstar
      exact keepsOn_of_rejects (h.needsOperand.someArguments hhead (Bool.eq_false_iff.2 halone) .count function opening)
    · have hother : isStarAlone ([t] ++ x.other) = false := by
        cases x.other with
        | nil => rfl
        | cons t' other => simp [isStarAlone, hstar]
      refine keepsOn_congr (h.listedArguments function opening [t]) ?_ ?_
      · rw [run_someArguments, if_neg fun hcount => halone hcount.2]
      · rw [run_someArguments, if_neg fun hcount => Bool.eq_false_iff.1 hother hcount.2]

theorem someArguments (f : Builtin) (function : String) (opening : Nat) :
    x.Keeps n (inner.someArguments f function opening) := by
  refine keeps_of_cons (h.advancing.someArguments f function opening) fun t ts => ?_
  have hlisted := h.listedArguments (n := n) function opening (t :: ts)
  by_cases hf : f = .count
  · subst hf
    cases ts with
    | nil => exact h.someArguments_one t function opening
    | cons closing ts =>
      by_cases hcount : Builtin.count = .count ∧ isStarAlone (t :: closing :: ts)
      · refine keepsOn_of_run (a := []) ts ?_ ?_
        · exact (run_someArguments _ function opening _ _).trans (if_pos hcount)
        · exact (run_someArguments _ function opening _ _).trans (if_pos hcount)
      · refine keepsOn_congr hlisted ?_ ?_
        · exact (run_someArguments _ function opening _ _).trans (if_neg hcount)
        · exact (run_someArguments _ function opening _ _).trans (if_neg hcount)
  · refine keepsOn_congr hlisted ?_ ?_
    · rw [run_someArguments, if_neg fun hcount => hf hcount.1]
    · rw [run_someArguments, if_neg fun hcount => hf hcount.1]

theorem callArguments (f : Builtin) (function : String) : x.Keeps n (inner.callArguments f function) := by
  rw [Steady.callArguments_eq]
  refine (keeps_expectSymbol "(").bind fun opening => keeps_of_cons (fun ts => ?_) fun t ts => ?_
  · exact advancesOn_eatSymbol_bind (h.advancing.someArguments f function opening ts)
  · refine (keepsOn_eatSymbol ")").bind fun closing => keeps_ite (fun _ => keeps_pure []) fun _ => ?_
    exact h.someArguments f function opening

/-! ### `CASE` and `CAST` -/

theorem clause : x.Keeps 0 inner.clause := by
  refine (h.expression _).bind fun condition => (keeps_eatKeyword .THEN).bind fun _ => keeps_ite (fun _ => ?_) fun _ => ?_
  · exact (h.expression _).map fun result => (condition, result)
  · exact keeps_malformedCase _

theorem clauses : x.Keeps 1 inner.clauses := by
  refine (keeps_nextIsKeyword .WHEN).bind fun _ => keeps_ite (fun _ => ?_) fun _ => keeps_malformedCase _
  exact Keeps.map (keeps_loop_of_head rfl (fun _ _ _ => rfl) (fun _ ts _ read => h.clause.map (· :: read) ts) []) _

theorem otherwise (start : Nat) : x.Keeps 1 (inner.otherwise start) := by
  refine (keeps_eatKeyword .ELSE).bind fun _ => keeps_ite (fun _ => ?_) fun _ => ?_
  · exact (h.expression _).mono (Nat.zero_le 1)
  · exact (keeps_nextIsKeyword .END).bind fun _ =>
      keeps_ite (fun _ => keeps_malformedCase _) fun _ => keeps_malformedCase _

theorem caseOperand? : x.Keeps 1 inner.caseOperand? := by
  refine (keeps_nextIsKeyword .WHEN).bind fun _ => keeps_ite (fun _ => keeps_pure _) fun _ => ?_
  refine (keeps_nextIsKeyword .ELSE).bind fun _ => (keeps_nextIsKeyword .END).bind fun _ => ?_
  exact keeps_ite (fun _ => keeps_malformedCase _) fun _ => ((h.expression _).mono (Nat.zero_le 1)).map some

theorem caseExpression (start : Nat) : x.Keeps n (inner.caseExpression start) := by
  have hadvances (node : Parser Expr) :
      Advances (eatKeyword .END >>= fun found => if found then node else malformedCase "missing END") :=
    fun ts => advancesOn_eatKeyword_bind (advances_bind (fun _ => advances_fail _) ts)
  -- the parts before it are in front of END, so the tokens behind them are not exchanged
  refine h.caseOperand?.bind_advancing (fun operand? => ?_) fun operand? => ?_
  · exact advances_bind fun clauses => advances_bind fun last => hadvances _
  refine h.clauses.bind_advancing (fun clauses => ?_) fun clauses => ?_
  · exact advances_bind fun last => hadvances _
  refine (h.otherwise start).bind_advancing (fun last => hadvances _) fun last => ?_
  refine (keeps_eatKeyword .END).bind fun _ => keeps_ite (fun _ => ?_) fun _ => keeps_malformedCase _
  cases operand? with
  | some operand => exact keeps_pure _
  | none => exact keeps_pure _

theorem castExpression (function : String) : x.Keeps n (inner.castExpression function) := by
  refine Keeps.parenthesized (((h.expression _).mono (Nat.zero_le 1)).bind fun operand => ?_)
  refine (keeps_expectKeyword .AS).bind fun _ => keeps_typeName?.bind fun target? => ?_
  cases target? with
  | some target => exact keeps_pure _
  | none => exact keeps_malformedArguments _ _

/-! ### Operands -/

/-- An opening parenthesis behind a word counts only where it is taken. -/
theorem wordOperand : x.Keeps 0 inner.wordOperand := by
  refine (keeps_nextToken _).bind fun t => keeps_nextIsSymbol_bind (by decide) ?_ fun isCall => ?_
  · -- only a call takes the parenthesis
    dsimp only
    generalize t.keyword? = keyword?
    split
    · exact .inr rfl
    · exact .inr rfl
    · exact .inr rfl
    · exact .inr rfl
    · exact .inr rfl
    · refine .inl ?_
      cases t.builtin? with
      | some f => exact ((advances_expectSymbol "(").bind _).bind _
      | none => exact fun ts => advancesOn_ite (fun _ => advances_fail _ ts) fun _ => advances_fail _ ts
  · have hunexpected : x.Keeps 0 (fail (unexpected t "expression") : Parser Expr) := keeps_fail _
    split
    · exact keeps_pure _
    · exact keeps_pure _
    · exact keeps_pure _
    · exact h.caseExpression _
    · exact h.castExpression _
    · cases isCall with
      | true =>
        cases t.builtin? with
        | some f => exact (h.callArguments f t.text).map _
        | none => exact keeps_ite (fun _ => hunexpected) fun _ => keeps_fail _
      | false => exact keeps_ite (fun _ => hunexpected) fun _ => (keeps_nameParts t.text).map _

theorem primary : x.Keeps 0 inner.primary := by
  refine keeps_of_cons inner.advances_primary fun t ts => keepsOn_peek?_bind ?_
  dsimp only
  cases t.kind with
  | number => exact keepsOn_skip_bind ((keeps_ofExcept _).map _ ts)
  | string => exact keepsOn_skip_bind (keeps_pure _ ts)
  | blob => exact keepsOn_skip_bind ((keeps_ofExcept _).map _ ts)
  | quotedIdentifier => exact keepsOn_skip_bind ((keeps_nameParts t.text).map _ ts)
  | symbol =>
    refine keepsOn_ite (fun _ => ?_) fun _ => keeps_fail _ _
    exact ((h.expression _).mono (Nat.zero_le 1)).parenthesized _
  | word => exact h.wordOperand _

theorem signed (op : UnaryOperator) : x.Keeps 0 (inner.signed op) := by
  have hoperand := h.operand.map (Expr.unary op)
  have hadvances := h.advancing.operand.bind fun e => (pure (.unary op e) : Parser Expr)
  refine keeps_of_cons (fun ts => ?_) fun t ts => keepsOn_peek?_bind ?_
  · cases ts with
    | nil => exact hadvances []
    | cons t ts => exact advancesOn_ite (fun _ => advancesOn_skip_bind) fun _ => hadvances (t :: ts)
  · exact keepsOn_ite (fun _ => keepsOn_skip_bind ((keeps_ofExcept _).map _ ts)) fun _ => hoperand (t :: ts)

theorem signedOperand : x.Keeps 0 inner.signedOperand := by
  refine keeps_of_cons inner.advances_signedOperand fun t ts => keepsOn_peek?_bind ?_
  cases (some t).bind signOperator? with
  | some op => exact keepsOn_skip_bind (h.signed op ts)
  | none => exact h.primary (t :: ts)

theorem unary : x.Keeps 0 inner.unary := by
  rw [unary_eq]
  exact (keeps_eatKeyword .NOT).bind fun _ => keeps_ite (fun _ => (h.expression _).map _) fun _ => h.signedOperand

/-! ### Continuations -/

theorem candidates : x.Keeps n inner.candidates := by
  refine (keeps_expectSymbol "(").bind fun opening => keeps_of_cons (fun ts => ?_) fun t ts => ?_
  · exact advancesOn_eatSymbol_bind ((h.advancing.expression _).commaList.bind _ ts)
  · refine (keepsOn_eatSymbol ")").bind fun closing => keeps_ite (fun _ => keeps_pure []) fun _ => ?_
    refine (h.expression _).commaList.bind_advancing (fun es => ?_) fun es => ?_
    · exact (advances_expectClosing opening).bind _
    · exact (keeps_expectClosing opening).map fun _ => es

theorem continueWith (left : Expr) (c : Continuation) : x.Keeps 0 (inner.continueWith left c) := by
  cases c with
  | binary op negate => exact (h.expression _).map _
  | between negate =>
    refine (h.expression _).bind fun low => (keeps_expectKeyword .AND).bind fun _ => ?_
    exact (h.expression _).map fun high => Expr.between negate left low high
  | among negate => exact h.candidates.map _
  | nullTest negate => exact keeps_pure _
  | collate => exact keeps_collationName.map _

omit h in
/-- The word behind `IS` or `NOT` counts, but not the one behind another word. -/
theorem wordContinuation?_eq {word : Keyword} (hIs : word ≠ .IS) (hNot : word ≠ .NOT) (following : Option Keyword) :
    wordContinuation? word following = wordContinuation? word none := by
  cases word <;> first | rfl | contradiction

omit h in
/-- What a word alone is, it is at least with a word behind it, just as tight. -/
theorem exists_wordContinuation? {word : Keyword} {c : Continuation} {isPair : Bool}
    (hword : wordContinuation? word none = some (c, isPair)) (following : Option Keyword) :
    ∃ c' isPair', wordContinuation? word following = some (c', isPair') ∧ c'.precedence = c.precedence := by
  by_cases hIs : word = .IS
  · subst hIs
    cases hword
    by_cases hfollowing : following = some .NOT
    · exact ⟨.binary .is true, true, if_pos hfollowing, rfl⟩
    · exact ⟨.binary .is false, false, if_neg hfollowing, rfl⟩
  · by_cases hNot : word = .NOT
    · subst hNot
      cases hword
    · exact ⟨c, isPair, (wordContinuation?_eq hIs hNot following).trans hword, rfl⟩

omit h in
/-- An operator of one word does not need the word behind it. -/
theorem wordContinuation?_none {word : Keyword} {following : Option Keyword} {c : Continuation}
    (hword : wordContinuation? word following = some (c, false)) : wordContinuation? word none = some (c, false) := by
  by_cases hIs : word = .IS
  · subst hIs
    by_cases hfollowing : following = some .NOT
    · cases (if_pos hfollowing).symm.trans hword
    · exact (if_neg hfollowing).symm.trans hword
  · by_cases hNot : word = .NOT
    · subst hNot
      simp only [wordContinuation?] at hword
      split at hword <;> simp at hword
    · exact (wordContinuation?_eq hIs hNot following).symm.trans hword

omit h in
theorem continuation?_other : continuation? x.other = none := by
  rcases x.other_cases with hother | ⟨t, rest, hother, ht⟩
  · rw [hother]
    rfl
  · have hmark : symbolOperator? t = none := by
      have htext := ht.2
      rw [symbolOperator?, ht.1]
      simp only [List.mem_cons, List.not_mem_nil, or_false] at htext
      rcases htext with htext | htext | htext <;> rw [htext] <;> rfl
    rw [hother]
    simp only [continuation?, hmark, ht.keyword?_eq]

omit h in
/-- The token behind the first one counts only if that is a reserved word. -/
theorem continuation?_cons (t : Token) : (∃ c?, ∀ rest, continuation? (t :: rest) = c?) ∨
    ∃ word, ∀ rest, continuation? (t :: rest) = wordContinuation? word (rest.head?.bind Token.keyword?) := by
  simp only [continuation?]
  cases symbolOperator? t with
  | some op => exact .inl ⟨_, fun _ => rfl⟩
  | none =>
    cases t.keyword? with
    | none => exact .inl ⟨_, fun _ => rfl⟩
    | some word => exact .inr ⟨word, fun _ => rfl⟩

omit h in
/-- Where nothing continues an operand, nothing does so after the exchange. -/
theorem tightContinuation?_other {least : Nat} {ts : List Token} (hnone : tightContinuation? least (ts ++ x.rest) = none) :
    tightContinuation? least (ts ++ x.other) = none := by
  rcases ts with _ | ⟨t, _ | ⟨t', ts⟩⟩
  · rw [List.nil_append, tightContinuation?, continuation?_other, Option.filter_none]
  · rcases continuation?_cons t with ⟨c?, hsame⟩ | ⟨word, hword⟩
    · have heq : tightContinuation? least ([t] ++ x.other) = tightContinuation? least ([t] ++ x.rest) := by
        simp only [tightContinuation?, List.singleton_append, hsame]
      rw [heq, hnone]
    · simp only [tightContinuation?, List.singleton_append, hword, Option.filter_eq_none_iff] at hnone ⊢
      rw [head?_other_bind fun _ ht => ht.keyword?_eq]
      rintro ⟨c, isPair⟩ hc
      obtain ⟨c', isPair', hc', hprecedence⟩ := exists_wordContinuation? hc (x.rest.head?.bind Token.keyword?)
      rw [← hprecedence]
      exact hnone _ hc'
  · exact hnone

omit h in
/-- A continuation of one token is the same one after the exchange. -/
theorem tightContinuation?_one {least : Nat} {t : Token} {ts : List Token} {c : Continuation}
    (hnext : tightContinuation? least (t :: ts ++ x.rest) = some (c, false)) :
    tightContinuation? least (t :: ts ++ x.other) = some (c, false) := by
  cases ts with
  | nil =>
    simp only [tightContinuation?, List.singleton_append, Option.filter_eq_some_iff] at hnext ⊢
    obtain ⟨hc, htight⟩ := hnext
    refine ⟨?_, htight⟩
    rcases continuation?_cons t with ⟨c?, hsame⟩ | ⟨word, hword⟩
    · rw [hsame, ← hc, hsame]
    · rw [hword] at hc ⊢
      rw [head?_other_bind fun _ ht => ht.keyword?_eq]
      exact wordContinuation?_none hc
  | cons t' ts => exact hnext

theorem extend (least : Nat) (left : Expr) : x.Keeps 0 (inner.extend least left) := by
  refine keeps_loop rfl (fun ts _ => tightContinuation?_other) (fun t ts b left left' tokens hnext hstep => ?_) left
  obtain ⟨c, isPair⟩ := b
  cases isPair with
  | false => exact ⟨tightContinuation?_one hnext, h.continueWith left c ts left' tokens (Nat.zero_le _) hstep⟩
  | true =>
    cases ts with
    | nil =>
      -- the second word of the operator would be one of the exchanged tokens
      rw [tightContinuation?, Option.filter_eq_some_iff] at hnext
      obtain ⟨_, t', rest, hts⟩ := Steady.exists_of_continuation? hnext.1
      have hrest : x.rest = t' :: rest := (List.cons.inj hts).2
      have hle := (inner.continueWith left c).length_run_le x.stop rest
      have hrun : (inner.continueWith left c).run x.stop rest = (.ok left', tokens ++ x.rest) := by
        rw [hts] at hstep
        exact hstep
      have hlength := congrArg List.length hrest
      simp only [hrun, List.length_append, List.length_cons] at hle hlength
      omega
    | cons t' ts => exact ⟨hnext, h.continueWith left c ts left' tokens (Nat.zero_le _) hstep⟩

end Keeping

/-! ### All levels -/

theorem keeping_levels (x : Exchange) (n : Nat) : (levels n).Keeping x := by
  induction n with
  | zero =>
    have hdeep : x.Keeps 0 tooDeep := keeps_offset_fail _
    exact { operand := hdeep
            expression := fun _ => hdeep
            advancing := advancing_levels 0
            needsOperand := needsOperand_levels 0 }
  | succ n ih =>
    exact { operand := ih.unary
            expression := fun least => ih.unary.bind (ih.extend least)
            advancing := advancing_levels (n + 1)
            needsOperand := needsOperand_levels (n + 1) }

end Levels

/-- An expression depends only on its own tokens: where it is read from some tokens in front of others, it has at least
one, and it is read from the same tokens in front of all others that start with a semicolon, a comma or a closing
parenthesis, and in front of none. -/
theorem run_expression_exchange {stop : Nat} {tokens rest : List Token} {e : Expr}
    (h : expression.run stop (tokens ++ rest) = (.ok e, rest)) :
    tokens ≠ [] ∧ ∀ farStop other, (∀ t ∈ other.head?, t.EndsExpression) →
      expression.run farStop (tokens ++ other) = (.ok e, other) := by
  refine ⟨?_, fun farStop other hends => ?_⟩
  · rintro rfl
    exact Nat.lt_irrefl _ ((Levels.advancing_levels nestingLimit).expression Precedence.lowest rest stop e rest h)
  · let x : Exchange := { stop, farStop, rest, other, ends := hends }
    exact (Levels.keeping_levels x nestingLimit).expression Precedence.lowest tokens e [] (Nat.zero_le _) h

/-- The tokens of `a IS b`. -/
def isTokens : List Token :=
  [⟨.word, "a", 0⟩, ⟨.word, "IS", 2⟩, ⟨.word, "b", 5⟩]

/-- `a IS b` is left by `NOT c`, which no operator is, and it is the same expression in front of a comma. -/
theorem run_expression_exchange_is :
    expression.run 12 (isTokens ++ [⟨.word, "NOT", 7⟩, ⟨.word, "c", 11⟩]) =
        (.ok (.binary .is false (.field "a") (.field "b")), [⟨.word, "NOT", 7⟩, ⟨.word, "c", 11⟩]) ∧
      isTokens ≠ [] ∧
      expression.run 9 (isTokens ++ [⟨.symbol, ",", 6⟩, ⟨.word, "c", 8⟩]) =
        (.ok (.binary .is false (.field "a") (.field "b")), [⟨.symbol, ",", 6⟩, ⟨.word, "c", 8⟩]) := by
  have h : expression.run 12 (isTokens ++ [⟨.word, "NOT", 7⟩, ⟨.word, "c", 11⟩]) =
      (.ok (.binary .is false (.field "a") (.field "b")), [⟨.word, "NOT", 7⟩, ⟨.word, "c", 11⟩]) := by
    with_unfolding_all rfl
  obtain ⟨hne, hother⟩ := run_expression_exchange h
  exact ⟨h, hne, hother 9 [⟨.symbol, ",", 6⟩, ⟨.word, "c", 8⟩] (by decide)⟩

end SqlFormula.Parser
