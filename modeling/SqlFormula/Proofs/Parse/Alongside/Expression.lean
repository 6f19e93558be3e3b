import SqlFormula.Parse.Expression
import SqlFormula.Proofs.Parse.Alongside.Basic

/-!
# The same expression in two texts

Expressions are read alongside themselves: nothing that is read for an expression depends on where its tokens stand, and a
semicolon, a closing parenthesis and the end of the text all end it at the same token.

## Main definitions

- `Parser.Levels.Steady` — the readers of one level read alongside themselves

## Main statements

- `Parser.Levels.Steady.unary`, `Parser.Levels.Steady.extend` — so do those of the next level
- `Parser.Relocation.alongside_expression`
-/

namespace SqlFormula.Parser

open Reader Relocation

variable {r : Relocation} {α : Type}

/-! ### Words and operands -/

namespace Relocation

/-- Only the place of a number that is out of range depends on where it stands. -/
theorem alongside_numberValue (t : Token) (negative : Bool) : r.Alongside (ofExcept (numberValue t negative))
    (ofExcept (numberValue (t.shift r.distance) negative)) := by
  rw [numberValue, numberValue, Token.text_shift]
  generalize (if negative then '-' :: t.text.toList else t.text.toList) = cs
  generalize (if isFloatText cs then none else Number.readInt64? cs) = integer?
  generalize Number.readDecimal? cs = decimal?
  cases integer? with
  | some i => exact alongside_pure _
  | none =>
    cases decimal? with
    | some d => exact alongside_pure _
    | none => exact fun _ => at_fail fun _ => ⟨rfl, rfl⟩

theorem alongside_blobValue (t : Token) :
    r.Alongside (ofExcept (blobValue t)) (ofExcept (blobValue (t.shift r.distance))) := by
  rw [blobValue, blobValue, Token.text_shift]
  cases Text.Hex.decode t.text.toList with
  | some bytes => exact alongside_pure _
  | none => exact fun _ => at_fail fun _ => ⟨rfl, rfl⟩

theorem alongside_collationName : r.Alongside collationName collationName := by
  rw [collationName]
  refine alongside_nextToken_bind (fun t => ?_) fun t ts ht => ?_
  · refine alongside_ite (fun _ => ?_) fun _ ts => at_fail (sameError_unexpected t _)
    rw [Token.text_shift]
    cases Collation.lookup t.text with
    | some c => exact alongside_pure c
    | none => exact fun _ => at_fail fun _ => ⟨rfl, rfl⟩
  · simp only [ht.kind_eq]
    exact rejects_fail _

theorem typeWord?_far (ts : List Token) : typeWord? (r.far ts) = (typeWord? ts).map id := by
  rw [typeWord?, typeWord?, head?_filter_far (fun _ => rfl) (fun t ht => by rw [ht.kind_eq]; rfl), Option.map_map,
    Option.map_map]
  rfl

theorem alongside_typeWords : r.Alongside typeWords typeWords := by
  refine Alongside.map (alongside_loop rfl typeWord?_far (fun word words ts hne _ => ?_) []) _
  obtain ⟨t, ts, rfl⟩ := List.exists_cons_of_ne_nil hne
  exact at_skip_bind (at_pure _)

theorem alongside_typeSize : r.Alongside typeSize typeSize := by
  have hsize (negative : Bool) : r.Alongside
      (nextToken "type size" >>= fun t => if t.kind = .number then
        ofExcept (numberValue t negative) >>= fun v => pure (sizeOf v) else fail (unexpected t "type size"))
      (nextToken "type size" >>= fun t => if t.kind = .number then
        ofExcept (numberValue t negative) >>= fun v => pure (sizeOf v) else fail (unexpected t "type size")) := by
    refine alongside_nextToken_bind (fun t => ?_) fun t ts ht => ?_
    · exact alongside_ite (fun _ => (alongside_numberValue t negative).map sizeOf) fun _ ts =>
        at_fail (sameError_unexpected t _)
    · simp only [ht.kind_eq]
      exact rejects_fail _
  rw [typeSize]
  refine (alongside_eatSymbol "-" (by decide)).bind fun negative => ?_
  exact alongside_ite (fun _ => (alongside_eatSymbol "+" (by decide)).bind fun _ => hsize negative) fun _ => hsize negative

theorem alongside_typeName? : r.Alongside typeName? typeName? := by
  rw [typeName?]
  refine alongside_typeWords.bind fun words => alongside_ite (fun _ => alongside_pure _) fun _ => ?_
  refine (alongside_nextIsSymbol "(" (by decide)).bind fun sized => alongside_ite (fun _ => ?_) fun _ => alongside_pure _
  exact alongside_typeSize.commaList.parenthesized.map _

theorem alongside_malformedArguments (function reason : String) :
    r.Alongside (malformedArguments function reason : Parser α) (malformedArguments function reason) :=
  alongside_offset_bind fun _ _ hplace _ => at_fail fun hnil => ⟨rfl, hplace hnil⟩

theorem rejects_malformedArguments {ts : List Token} (function reason : String) :
    (malformedArguments function reason : Parser α).Rejects ts := by
  cases ts with
  | nil => exact fun _ => ⟨_, [], rfl⟩
  | cons t ts => exact fun _ => ⟨_, t :: ts, rfl⟩

theorem alongside_malformedCase (reason reason' : String) :
    r.Alongside (malformedCase reason : Parser α) (malformedCase reason') :=
  alongside_offset_bind fun _ _ hplace _ => at_fail fun hnil => ⟨rfl, hplace hnil⟩

end Relocation

/-! ### The readers of a level -/

namespace Levels

/-- An expression does not start with a star, and not at the end. -/
def NeedsOperand (l : Levels) : Prop :=
  ∀ least ts, (∀ t ∈ ts.head?, t.isSymbol "*" = true) → (l.expression least).Rejects ts

/-- The readers of a level read alongside themselves. -/
structure Steady (r : Relocation) (l : Levels) : Prop where
  operand : r.Alongside l.operand l.operand
  expression : ∀ least, r.Alongside (l.expression least) (l.expression least)
  needsOperand : l.NeedsOperand

variable {inner : Levels}

/-- The arguments of a call after its opening parenthesis, if it is not closed at once. -/
def someArguments (inner : Levels) (f : Builtin) (function : String) (opening : Nat) : Parser (List Expr) := do
  if f = .count ∧ isStarAlone (← ahead) then
    skip 2
    pure []
  else if ← nextIsKeyword .DISTINCT then malformedArguments function "DISTINCT is not supported"
  else
    let args ← commaList (inner.argument function)
    closeCall function opening
    pure args

namespace NeedsOperand

theorem nil (h : inner.NeedsOperand) (least : Nat) : (inner.expression least).Rejects [] :=
  h least [] nofun

theorem argument (h : inner.NeedsOperand) {ts : List Token} (hts : ∀ t ∈ ts.head?, t.isSymbol "*" = true)
    (function : String) : (inner.argument function).Rejects ts := by
  have hnext (s : String) (hs : s ≠ "*") (stop : Nat) : (nextIsSymbol s).run stop ts = (.ok false, ts) := by
    have hsymbol : ts.head?.any (Token.isSymbol · s) = false := by
      cases ts with
      | nil => rfl
      | cons t ts =>
        have ht := hts t rfl
        simp only [Token.isSymbol, Bool.and_eq_true, beq_iff_eq] at ht
        simp [Token.isSymbol, ht.2, hs.symm]
    rw [← hsymbol]
    rfl
  rw [Levels.argument]
  refine rejects_bind ts fun stop => ⟨false, hnext ")" (by decide) stop, ?_⟩
  exact rejects_bind ts fun stop => ⟨false, hnext "," (by decide) stop, h _ ts hts⟩

theorem someArguments (h : inner.NeedsOperand) {ts : List Token} (hts : ∀ t ∈ ts.head?, t.isSymbol "*" = true)
    (hstar : isStarAlone ts = false) (f : Builtin) (function : String) (opening : Nat) :
    (inner.someArguments f function opening).Rejects ts := by
  have hword (stop : Nat) : (nextIsKeyword .DISTINCT).run stop ts = (.ok false, ts) := by
    cases ts with
    | nil => rfl
    | cons t ts =>
      have ht := hts t rfl
      simp only [Token.isSymbol, Bool.and_eq_true, beq_iff_eq] at ht
      have hnone : t.keyword? = none := by rw [Token.keyword?, ht.1]
      show (Except.ok (decide (t.keyword? = some .DISTINCT)), t :: ts) = _
      rw [hnone]
      rfl
  rw [Levels.someArguments]
  refine rejects_bind ts fun _ => ⟨ts, rfl, ?_⟩
  rw [hstar, if_neg (by simp)]
  exact rejects_bind ts fun stop => ⟨false, hword stop, ((h.argument hts function).bind _).bind _⟩

end NeedsOperand

namespace Steady

variable (h : inner.Steady r)
include h

/-! ### Calls -/

theorem argument (function : String) : r.Alongside (inner.argument function) (inner.argument function) := by
  rw [Levels.argument]
  refine alongside_nextIsClosing_bind (fun closing => (alongside_nextIsSymbol "," (by decide)).bind fun comma => ?_) ?_
  · exact alongside_ite (fun _ => alongside_malformedArguments _ _) fun _ => h.expression _
  · exact rejects_bind [] fun _ => ⟨false, rfl, h.needsOperand.nil _⟩

omit h in
theorem closeCall (function : String) (opening opening' : Nat) :
    r.Alongside (closeCall function opening) (closeCall function opening') := by
  rw [Levels.closeCall, Levels.closeCall]
  refine alongside_peek?_bind (fun t ts => ?_) (fun htail => ?_) fun t htail ht _ => ?_
  · exact at_ite (fun _ => .ok () ts) fun _ => alongside_malformedArguments _ _ (t :: ts)
  · exact .error fun _ => ⟨_, r.far [], rfl, fun _ => ⟨rfl, r.farStop_eq htail⟩⟩
  · refine at_of_rejects htail (fun stop => ⟨_, [], rfl⟩) fun hends => ?_
    simp only [Token.isSymbol_closing_of_semicolon (hends t ht)]
    exact rejects_malformedArguments _ _

omit h in
theorem exists_of_isStarAlone {ts : List Token} (hts : isStarAlone ts = true) :
    ∃ star closing rest, ts = star :: closing :: rest := by
  match ts with
  | [] => cases hts
  | [_] => cases hts
  | star :: closing :: rest => exact ⟨star, closing, rest, rfl⟩

omit h in
/-- Only a star at the end of the first text can be in front of a closing parenthesis in the second one alone. -/
theorem isStarAlone_far_eq {ts : List Token}
    (hts : r.EndsStatement ∨ isStarAlone ts = true ∨ ∃ t ∈ ts.head?, t.isSymbol "*" = false) :
    isStarAlone (r.far ts) = isStarAlone ts := by
  match ts with
  | [] =>
    rcases r.tail_cases with htail | ⟨t, rest, htail, ht⟩
    · rw [far_nil, htail]
    · rw [far_nil, htail]
      cases rest with
      | nil => rfl
      | cons t' rest => simp [isStarAlone, ht.isSymbol_eq]
  | [star] =>
    rcases r.tail_cases with htail | ⟨t, rest, htail, -⟩
    · rw [far_cons, far_nil, htail]
      rfl
    · rw [far_cons, far_nil, htail]
      rcases hts with hends | hstar | ⟨_, ⟨⟩, hstar⟩
      · have ht : t.isSymbol ")" = false := hends.notBefore t (by rw [htail]; rfl)
        simp [isStarAlone, ht]
      · cases hstar
      · simp [isStarAlone, hstar]
  | star :: closing :: ts => rfl

omit h in
theorem callArguments_eq (f : Builtin) (function : String) : inner.callArguments f function = (do
    let opening ← expectSymbol "("
    if ← eatSymbol ")" then pure []
    else inner.someArguments f function opening) :=
  rfl

theorem someArguments (f : Builtin) (function : String) (opening opening' : Nat) :
    r.Alongside (inner.someArguments f function opening) (inner.someArguments f function opening') := by
  rw [Levels.someArguments, Levels.someArguments]
  refine alongside_ahead_bind fun ts => ?_
  by_cases hsame : isStarAlone (r.far ts) = isStarAlone ts
  · rw [hsame]
    refine at_ite (fun hcount => ?_) fun _ => (alongside_nextIsKeyword .DISTINCT).bind (fun _ => ?_) ts
    · obtain ⟨star, closing, rest, rfl⟩ := exists_of_isStarAlone hcount.2
      exact .ok [] rest
    · refine alongside_ite (fun _ => alongside_malformedArguments _ _) fun _ => ?_
      exact (h.argument function).commaList.bind fun args =>
        (closeCall function opening opening').bind fun _ => alongside_pure args
  · -- a star in front of a closing parenthesis only in the second text
    have hts := mt isStarAlone_far_eq hsame
    simp only [not_or, not_exists, not_and, Bool.not_eq_false, Bool.not_eq_true] at hts
    obtain ⟨hends, hstar, hhead⟩ := hts
    have hrejects := h.needsOperand.someArguments hhead hstar f function opening
    rw [Levels.someArguments] at hrejects
    exact at_of_not_endsStatement hends hrejects

theorem callArguments (f : Builtin) (function : String) :
    r.Alongside (inner.callArguments f function) (inner.callArguments f function) := by
  rw [callArguments_eq]
  refine alongside_expectSymbol_bind "(" (by decide) fun opening opening' _ => ?_
  refine alongside_eatClosing_bind (fun closing => alongside_ite (fun _ => alongside_pure _) fun _ => ?_) ?_
  · exact h.someArguments f function opening opening'
  · exact h.needsOperand.someArguments (by simp) rfl f function opening

/-! ### `CASE` and `CAST` -/

theorem clause : r.Alongside inner.clause inner.clause := by
  rw [Levels.clause]
  refine (h.expression _).bind fun condition => (alongside_eatKeyword .THEN).bind fun _ => alongside_ite (fun _ => ?_) ?_
  · exact (h.expression _).map fun result => (condition, result)
  · exact fun _ => alongside_malformedCase _ _

omit h in
theorem whenAhead?_far (ts : List Token) : whenAhead? (r.far ts) = (whenAhead? ts).map id := by
  cases ts with
  | nil =>
    rcases r.tail_cases with htail | ⟨t, rest, htail, ht⟩
    · rw [far_nil, htail]
      rfl
    · have hword : t.isKeyword .WHEN = false := by
        rw [Token.isKeyword, ht.keyword?_eq]
        rfl
      rw [far_nil, htail, whenAhead?, List.head?_cons, Option.any_some, hword]
      rfl
  | cons t ts => rw [Option.map_id]; rfl

theorem clauses : r.Alongside inner.clauses inner.clauses := by
  rw [Levels.clauses]
  refine (alongside_nextIsKeyword .WHEN).bind fun _ => alongside_ite (fun _ => ?_) fun _ => alongside_malformedCase _ _
  refine Alongside.map (alongside_loop rfl whenAhead?_far (fun _ read ts hne _ => ?_) []) _
  obtain ⟨t, ts, rfl⟩ := List.exists_cons_of_ne_nil hne
  exact at_skip_bind (h.clause.map (fun c => c :: read) ts)

theorem otherwise (start start' : Nat) : r.Alongside (inner.otherwise start) (inner.otherwise start') := by
  rw [Levels.otherwise, Levels.otherwise]
  refine (alongside_eatKeyword .ELSE).bind fun _ => alongside_ite (fun _ => h.expression _) fun _ => ?_
  refine (alongside_nextIsKeyword .END).bind fun _ => alongside_ite (fun _ => ?_) fun _ => ?_
  · exact alongside_malformedCase _ _
  · exact alongside_malformedCase _ _

theorem caseOperand? : r.Alongside inner.caseOperand? inner.caseOperand? := by
  rw [Levels.caseOperand?]
  refine (alongside_nextIsKeyword .WHEN).bind fun _ => alongside_ite (fun _ => alongside_pure _) fun _ => ?_
  refine (alongside_nextIsKeyword .ELSE).bind fun _ => (alongside_nextIsKeyword .END).bind fun _ => ?_
  exact alongside_ite (fun _ => alongside_malformedCase _ _) fun _ => (h.expression _).map some

theorem caseExpression (start start' : Nat) :
    r.Alongside (inner.caseExpression start) (inner.caseExpression start') := by
  rw [Levels.caseExpression, Levels.caseExpression]
  refine h.caseOperand?.bind fun operand? => h.clauses.bind fun clauses => (h.otherwise start start').bind fun last => ?_
  refine (alongside_eatKeyword .END).bind fun _ => alongside_ite (fun _ => ?_) fun _ => alongside_malformedCase _ _
  cases operand? with
  | some operand => exact alongside_pure _
  | none => exact alongside_pure _

theorem castExpression (function : String) :
    r.Alongside (inner.castExpression function) (inner.castExpression function) := by
  rw [Levels.castExpression]
  refine Alongside.parenthesized ((h.expression _).bind fun operand => ?_)
  refine (alongside_expectKeyword .AS).bind fun _ => alongside_typeName?.bind fun target? => ?_
  cases target? with
  | some target => exact alongside_pure _
  | none => exact alongside_malformedArguments _ _

/-! ### Operands -/

theorem wordOperand (t : Token) (ts : List Token) : r.At (t :: ts) inner.wordOperand inner.wordOperand := by
  rw [Levels.wordOperand]
  refine at_nextToken_bind ((alongside_nextIsSymbol "(" (by decide)).bind (fun isCall => ?_) ts)
  have hunexpected : r.Alongside (fail (unexpected t "expression") : Parser Expr)
      (fail (unexpected (t.shift r.distance) "expression")) :=
    fun _ => at_fail (sameError_unexpected t _)
  simp only [Token.keyword?_shift, Token.builtin?_shift, Token.text_shift]
  split
  · exact alongside_pure _
  · exact alongside_pure _
  · exact alongside_pure _
  · exact h.caseExpression _ _
  · exact h.castExpression _
  · cases isCall with
    | true =>
      cases t.builtin? with
      | some f => exact (h.callArguments f t.text).map _
      | none => exact alongside_ite (fun _ => hunexpected) fun _ _ => at_fail fun _ => ⟨rfl, rfl⟩
    | false => exact alongside_ite (fun _ => hunexpected) fun _ => (alongside_nameParts t.text).map _

theorem primary : r.Alongside inner.primary inner.primary := by
  rw [Levels.primary]
  refine alongside_peek?_bind (fun t ts => ?_) (fun htail => ?_) fun t htail _ ht => ?_
  · simp only [Token.kind_shift, Token.text_shift, Token.isSymbol_shift]
    cases t.kind with
    | number => exact at_skip_bind ((alongside_numberValue t false).map _ ts)
    | string => exact at_skip_bind (at_pure _)
    | blob => exact at_skip_bind ((alongside_blobValue t).map _ ts)
    | quotedIdentifier => exact at_skip_bind ((alongside_nameParts t.text).map _ ts)
    | symbol =>
      exact at_ite (fun _ => (h.expression _).parenthesized (t :: ts)) fun _ => at_fail (sameError_unexpected t _)
    | word => exact h.wordOperand t ts
  · exact at_endOfInput htail _
  · refine at_of_rejects htail (rejects_endOfInput _) fun _ => ?_
    simp only [ht.kind_eq, ht.isSymbol_eq (s := "(") (by decide) (by decide)]
    exact rejects_fail _

theorem signed (op : UnaryOperator) : r.Alongside (inner.signed op) (inner.signed op) := by
  have hoperand := h.operand.map (Expr.unary op)
  rw [Levels.signed]
  refine alongside_peek?_bind (fun t ts => ?_) (fun _ => hoperand []) fun t _ _ ht => ?_
  · exact at_ite (fun _ => at_skip_bind ((alongside_numberValue t true).map _ ts)) fun _ => hoperand (t :: ts)
  · have hkind : ¬(op = .negate ∧ t.kind = .number) := by simp [ht.kind_eq]
    dsimp only
    rw [if_neg hkind]
    exact hoperand []

theorem unary : r.Alongside inner.unary inner.unary := by
  rw [Levels.unary]
  refine (alongside_eatKeyword .NOT).bind fun _ => alongside_ite (fun _ => (h.expression _).map _) fun _ => ?_
  refine alongside_peek?_bind (fun t ts => ?_) (fun _ => h.primary []) fun t _ _ ht => ?_
  · have hsign : (some (t.shift r.distance)).bind signOperator? = (some t).bind signOperator? := rfl
    rw [hsign]
    cases (some t).bind signOperator? with
    | some op => exact at_skip_bind (h.signed op ts)
    | none => exact h.primary (t :: ts)
  · have hsign : (some t).bind signOperator? = none := by
      simp [signOperator?, ht.isSymbol_eq]
    rw [hsign]
    exact h.primary []

/-! ### Continuations -/

theorem candidates : r.Alongside inner.candidates inner.candidates := by
  rw [Levels.candidates]
  refine alongside_expectSymbol_bind "(" (by decide) fun opening opening' _ => ?_
  refine alongside_eatClosing_bind (fun _ => alongside_ite (fun _ => alongside_pure _) fun _ => ?_) ?_
  · exact (h.expression _).commaList.bind fun es =>
      (alongside_expectClosing opening opening').bind fun _ => alongside_pure es
  · exact Rejects.bind (Rejects.bind (h.needsOperand.nil _) _) _

theorem continueWith (left : Expr) (c : Continuation) :
    r.Alongside (inner.continueWith left c) (inner.continueWith left c) := by
  cases c with
  | binary op negate => exact (h.expression _).map _
  | between negate =>
    refine (h.expression _).bind fun low => (alongside_expectKeyword .AND).bind fun _ => ?_
    exact (h.expression _).map fun high => Expr.between negate left low high
  | among negate => exact h.candidates.map _
  | nullTest negate => exact alongside_pure _
  | collate => exact alongside_collationName.map _

omit h in
/-- Nothing is continued by a boundary, and a word is not the first of two in front of one. -/
theorem continuation?_far (ts : List Token) : continuation? (r.far ts) = continuation? ts := by
  cases ts with
  | nil =>
    rcases r.tail_cases with htail | ⟨t, rest, htail, ht⟩
    · rw [far_nil, htail]
    · have hmark : symbolOperator? t = none := by
        rw [symbolOperator?, ht.kind_eq]
        rcases ht.text_eq with htext | htext <;> rw [htext] <;> rfl
      rw [far_nil, htail]
      simp only [continuation?, hmark, ht.keyword?_eq]
  | cons t ts =>
    have hfollowing : (r.far ts).head?.bind Token.keyword? = ts.head?.bind Token.keyword? :=
      head?_far_bind (fun _ => rfl) (fun _ ht => ht.keyword?_eq) ts
    rw [far_cons, continuation?, continuation?, hfollowing]
    rfl

omit h in
/-- If an operator has two words, both are there. -/
theorem exists_of_continuation? {ts : List Token} {c : Continuation} (h : continuation? ts = some (c, true)) :
    ∃ t t' rest, ts = t :: t' :: rest := by
  match ts with
  | [] => cases h
  | [t] =>
    have hword (word : Keyword) : wordContinuation? word none ≠ some (c, true) := by
      unfold wordContinuation?
      split <;> simp
    simp only [continuation?] at h
    split at h
    · cases h
    · split at h
      · cases h
      · exact absurd h (hword _)
  | t :: t' :: rest => exact ⟨t, t', rest, rfl⟩

theorem extend (least : Nat) (left : Expr) : r.Alongside (inner.extend least left) (inner.extend least left) := by
  rw [Levels.extend]
  refine alongside_loop (g := id) rfl (fun ts => ?_) (fun c left ts hne hnext => ?_) left
  · rw [tightContinuation?, continuation?_far, Option.map_id]
    rfl
  · obtain ⟨c, isPair⟩ := c
    cases isPair with
    | false =>
      obtain ⟨t, ts, rfl⟩ := List.exists_cons_of_ne_nil hne
      exact at_skip_bind (h.continueWith left c ts)
    | true =>
      rw [tightContinuation?, Option.filter_eq_some_iff] at hnext
      obtain ⟨t, t', rest, rfl⟩ := exists_of_continuation? hnext.1
      exact at_skip_bind (at_skip_bind (h.continueWith left c rest))

end Steady

/-! ### All levels -/

/-- An operand starts neither with a star nor at the end. -/
theorem rejects_unary (inner : Levels) {ts : List Token} (hts : ∀ t ∈ ts.head?, t.isSymbol "*" = true) :
    inner.unary.Rejects ts := by
  cases ts with
  | nil => exact rejects_endOfInput _
  | cons t ts =>
    obtain ⟨hkind, htext⟩ : t.kind = .symbol ∧ t.text = "*" := by
      simpa [Token.isSymbol] using hts t rfl
    have hword : t.keyword? = none := by rw [Token.keyword?, hkind]
    have hsign : (some t).bind signOperator? = none := by simp [signOperator?, Token.isSymbol, htext]
    have hopening : t.isSymbol "(" = false := by simp [Token.isSymbol, htext]
    rw [Levels.unary]
    refine rejects_bind (t :: ts) fun stop => ⟨false, ?_, rejects_bind (t :: ts) fun _ => ⟨some t, rfl, ?_⟩⟩
    · rw [run_eatKeyword, hword]
      rfl
    · rw [hsign, Levels.primary]
      refine rejects_bind (t :: ts) fun _ => ⟨some t, rfl, ?_⟩
      simp only [hkind, hopening]
      exact rejects_fail _

theorem needsOperand_levels (n : Nat) : (levels n).NeedsOperand := by
  intro least ts hts
  cases n with
  | zero =>
    cases ts with
    | nil => exact fun _ => ⟨_, [], rfl⟩
    | cons t ts => exact fun _ => ⟨_, t :: ts, rfl⟩
  | succ n => exact (rejects_unary (levels n) hts).bind _

theorem steady_levels (r : Relocation) (n : Nat) : (levels n).Steady r := by
  induction n with
  | zero =>
    have hdeep : r.Alongside tooDeep tooDeep :=
      alongside_offset_bind fun _ _ hplace _ => at_fail fun hnil => ⟨rfl, hplace hnil⟩
    exact { operand := hdeep, expression := fun _ => hdeep, needsOperand := needsOperand_levels 0 }
  | succ n ih =>
    exact { operand := ih.unary
            expression := fun least => ih.unary.bind (ih.extend least)
            needsOperand := needsOperand_levels (n + 1) }

end Levels

/-- An expression is read alongside itself. -/
theorem Relocation.alongside_expression (r : Relocation) : r.Alongside expression expression :=
  (Levels.steady_levels r nestingLimit).expression Precedence.lowest

end SqlFormula.Parser
