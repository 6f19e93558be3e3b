import SqlFormula.Proofs.Parse.Batch
import SqlFormula.Proofs.Token.Places

/-!
# Where errors are

Every error of a reader is at a token ahead or at the end of the text: places are taken from the next token, from one
that was taken, from a parenthesis that was opened, or from the end, and from nowhere else.

## Main definitions

- `Parser.Within` — the tokens ahead and the end of the text are at some places
- `Parser.Places` — a reader's errors are at these places, and its results satisfy a condition
- `LocatedIn`, `SplitsAt` — where the error of a text is, and that this is within the text
- `CountsStatements` — the statements in front of the one that is wrong

## Main statements

- `Parser.Places.bind`, `Parser.places_loop` — readers one after the other, and repetition
- `Parser.places_expression` — the errors of expressions
- `Parser.places_formula`, `Parser.places_statements` — the errors of whole readers
- `parse_errors` — the errors of texts
-/

namespace SqlFormula.Parser

open Reader

/-! ### Readers one after the other -/

/-- The text ends at one of some places, and the tokens ahead stand at such places. -/
def Within (S : Nat → Prop) (stop : Nat) (input : List Token) : Prop :=
  S stop ∧ ∀ t ∈ input, S t.offset

/-- Whenever the text ends and the tokens ahead stand at some places, the errors of a reader are at these places and its
results satisfy `Q`. -/
structure Places {α : Type} (S : Nat → Prop) (p : Parser α) (Q : α → Prop) : Prop where
  ok : ∀ {stop input a rest}, Within S stop input → p.run stop input = (.ok a, rest) → Q a
  error : ∀ {stop input e rest}, Within S stop input → p.run stop input = (.error e, rest) → S e.offset

/-- The errors of a reader are at some places if the tokens ahead are. -/
abbrev PlacesErrors {α : Type} (S : Nat → Prop) (p : Parser α) : Prop :=
  Places S p fun _ => True

section

variable {α β γ : Type} {S : Nat → Prop} {p : Parser α} {f : α → Parser β} {P : α → Prop} {Q : β → Prop}

theorem Within.of_suffix {stop : Nat} {input rest : List Token} (h : Within S stop input) (hrest : rest <:+ input) :
    Within S stop rest :=
  ⟨h.1, fun t ht => h.2 t (hrest.subset ht)⟩

/-- What a reader leaves is ahead as well. -/
theorem Within.run {stop : Nat} {input rest : List Token} {result : Except ParseError α} (h : Within S stop input)
    (hrun : p.run stop input = (result, rest)) : Within S stop rest := by
  have hsuffix := p.suffix stop input
  rw [hrun] at hsuffix
  exact h.of_suffix hsuffix

theorem Places.mono {P' : α → Prop} (hp : Places S p P) (h : ∀ a, P a → P' a) : Places S p P' where
  ok hin hrun := h _ (hp.ok hin hrun)
  error hin hrun := hp.error hin hrun

theorem Places.forget (hp : Places S p P) : PlacesErrors S p :=
  hp.mono fun _ _ => trivial

theorem places_pure {b : β} (h : Q b) : Places S (pure b : Parser β) Q where
  ok _ hrun := by
    cases hrun
    exact h
  error _ hrun := by cases hrun

theorem places_fail {e : ParseError} (h : S e.offset) : Places S (fail e : Parser β) Q where
  ok _ hrun := by cases hrun
  error _ hrun := by
    cases hrun
    exact h

theorem Places.bind (hp : Places S p P) (hf : ∀ a, P a → Places S (f a) Q) : Places S (p >>= f) Q where
  ok {stop input b left} hin hrun := by
    obtain ⟨a, rest, ha, hb⟩ := exists_of_run_bind hrun
    exact (hf a (hp.ok hin ha)).ok (hin.run ha) hb
  error {stop input e left} hin hrun := by
    generalize ha : p.run stop input = outcome
    obtain ⟨e' | a, rest⟩ := outcome
    · rw [run_bind_error ha] at hrun
      cases hrun
      exact hp.error hin ha
    · rw [run_bind_ok ha] at hrun
      exact (hf a (hp.ok hin ha)).error (hin.run ha) hrun

/-- The first reader may give anything. -/
theorem PlacesErrors.then (hp : PlacesErrors S p) (hf : ∀ a, Places S (f a) Q) : Places S (p >>= f) Q :=
  hp.bind fun a _ => hf a

theorem PlacesErrors.map (hp : PlacesErrors S p) (g : α → β) : PlacesErrors S (p >>= fun a => pure (g a)) :=
  hp.then fun _ => places_pure trivial

theorem places_ite {c : Prop} [Decidable c] {q : Parser β} {p : Parser β} (hp : c → Places S p Q)
    (hq : ¬c → Places S q Q) : Places S (if c then p else q) Q := by
  split
  · next h => exact hp h
  · next h => exact hq h

/-- An error with something added to it stays where it is. -/
theorem Places.mapError (hp : Places S p P) {g : ParseError → ParseError} (hg : ∀ e, (g e).offset = e.offset) :
    Places S (p.mapError g) P where
  ok {stop input a rest} hin hrun := by
    generalize ha : p.run stop input = outcome
    obtain ⟨e | a', rest'⟩ := outcome
    · rw [run_mapError_error ha] at hrun
      cases hrun
    · rw [run_mapError_ok ha] at hrun
      cases hrun
      exact hp.ok hin ha
  error {stop input e rest} hin hrun := by
    generalize ha : p.run stop input = outcome
    obtain ⟨e' | a, rest'⟩ := outcome
    · rw [run_mapError_error ha] at hrun
      cases hrun
      rw [hg]
      exact hp.error hin ha
    · rw [run_mapError_ok ha] at hrun
      cases hrun

theorem places_ofExcept {x : Except ParseError β} (h : ∀ e, x = .error e → S e.offset) :
    PlacesErrors S (ofExcept x : Parser β) := by
  cases x with
  | ok b => exact places_pure trivial
  | error e => exact places_fail (h e rfl)

theorem places_ahead : PlacesErrors S (Reader.ahead : Parser (List Token)) where
  ok _ _ := trivial
  error _ hrun := by cases hrun

theorem places_skip (n : Nat) : PlacesErrors S (skip n : Parser Unit) where
  ok _ _ := trivial
  error _ hrun := by cases hrun

theorem places_stop : Places S (Reader.stop : Parser Nat) S where
  ok hin hrun := by
    cases hrun
    exact hin.1
  error _ hrun := by cases hrun

theorem places_peek? : Places S (peek? : Parser (Option Token)) fun t? => ∀ t ∈ t?, S t.offset where
  ok hin hrun := by
    cases hrun
    exact fun t ht => hin.2 t (List.mem_of_head? ht)
  error _ hrun := by cases hrun

theorem places_next? : Places S (next? : Parser (Option Token)) fun t? => ∀ t ∈ t?, S t.offset where
  ok hin hrun := by
    cases hrun
    exact fun t ht => hin.2 t (List.mem_of_head? ht)
  error _ hrun := by cases hrun

/-! ### Repetition -/

/-- What calls for a round of a loop comes from the tokens ahead. -/
theorem places_loop_of {next : List Token → Option γ} {step : γ → α → Parser α}
    {consumes : ∀ b a, (step b a).Consuming} {a : α} {B : γ → Prop}
    (hnext : ∀ input b, (∀ t ∈ input, S t.offset) → next input = some b → B b)
    (hstep : ∀ b a, B b → PlacesErrors S (step b a)) : PlacesErrors S (loop next step consumes a) where
  ok _ _ := trivial
  error {stop input e rest} hin hrun := by
    revert hin
    have hrounds : ∀ a input, loopRun next step consumes stop a input = (.error e, rest) → Within S stop input →
        S e.offset := by
      intro a input
      fun_induction loopRun next step consumes stop a input with
      | case1 => exact fun h => by cases h
      | case2 => exact fun h => by cases h
      | case3 a input _ b hcalls a' rest' hok ih => exact fun h hin => ih h (hin.run hok)
      | case4 a input _ b hcalls e' rest' herror =>
        rintro ⟨⟩ hin
        exact (hstep b a (hnext input b hin.2 hcalls)).error hin herror
    exact hrounds a input hrun

theorem places_loop {next : List Token → Option γ} {step : γ → α → Parser α}
    {consumes : ∀ b a, (step b a).Consuming} {a : α} (hstep : ∀ b a, PlacesErrors S (step b a)) :
    PlacesErrors S (loop next step consumes a) :=
  places_loop_of (B := fun _ => True) (fun _ _ _ _ => trivial) fun b a _ => hstep b a

theorem places_commaList (hp : PlacesErrors S p) : PlacesErrors S (commaList p) := by
  rw [commaList, sepBy1]
  refine hp.then fun first => PlacesErrors.then (places_loop fun _ others => ?_) fun _ => places_pure trivial
  exact (places_skip 1).then fun _ => hp.map _

/-! ### Single tokens -/

theorem offset_unexpected (t : Token) (expected : String) : (unexpected t expected).offset = t.offset := by
  rw [unexpected]
  split <;> rfl

theorem places_unexpected {t : Token} (ht : S t.offset) (expected : String) :
    Places S (fail (unexpected t expected) : Parser β) Q :=
  places_fail (by rwa [offset_unexpected])

theorem places_endOfInput (expected : String) : Places S (endOfInput expected : Parser β) Q :=
  places_stop.bind fun _ hn => places_fail hn

theorem places_errorAtFront (expected : String) : Places S (errorAtFront expected : Parser β) Q := by
  rw [errorAtFront]
  refine places_peek?.bind fun t? ht => ?_
  cases t? with
  | none => exact places_endOfInput expected
  | some t => exact places_unexpected (ht t rfl) expected

theorem places_offset : Places S Parser.offset S := by
  rw [Parser.offset]
  refine places_peek?.bind fun t? ht => ?_
  cases t? with
  | none => exact places_stop
  | some t => exact places_pure (ht t rfl)

theorem places_nextToken (expected : String) : Places S (nextToken expected) fun t => S t.offset := by
  rw [nextToken]
  refine places_next?.bind fun t? ht => ?_
  cases t? with
  | none => exact places_endOfInput expected
  | some t => exact places_pure (ht t rfl)

theorem places_peekKeyword? : PlacesErrors S peekKeyword? :=
  places_peek?.bind fun _ _ => places_pure trivial

theorem places_nextIsKeyword (k : Keyword) : PlacesErrors S (nextIsKeyword k) :=
  places_peekKeyword?.map _

theorem places_nextIsSymbol (s : String) : PlacesErrors S (nextIsSymbol s) :=
  places_peek?.bind fun _ _ => places_pure trivial

theorem places_eatKeyword (k : Keyword) : PlacesErrors S (eatKeyword k) := by
  rw [eatKeyword]
  refine (places_nextIsKeyword k).then fun found => ?_
  cases found with
  | true => exact (places_skip 1).map _
  | false => exact places_pure trivial

theorem places_eatSymbol (s : String) : PlacesErrors S (eatSymbol s) := by
  rw [eatSymbol]
  refine (places_nextIsSymbol s).then fun found => ?_
  cases found with
  | true => exact (places_skip 1).map _
  | false => exact places_pure trivial

theorem places_expectKeyword (k : Keyword) : PlacesErrors S (expectKeyword k) := by
  rw [expectKeyword]
  exact (places_eatKeyword k).then fun _ => places_ite (fun _ => places_pure trivial) fun _ => places_errorAtFront _

/-- A mark that has to be there gives its place. -/
theorem places_expectSymbol (s : String) : Places S (expectSymbol s) S := by
  rw [expectSymbol]
  refine places_offset.bind fun place hplace => (places_eatSymbol s).then fun _ => ?_
  exact places_ite (fun _ => places_pure hplace) fun _ => places_errorAtFront _

theorem places_expectClosing (opening : Nat) : PlacesErrors S (expectClosing opening) := by
  rw [expectClosing]
  refine (places_eatSymbol ")").then fun _ => places_ite (fun _ => places_pure trivial) fun _ => ?_
  refine places_peek?.bind fun t? ht => ?_
  cases t? with
  | none => exact places_stop.bind fun _ hn => places_fail hn
  | some t => exact places_fail (ht t rfl)

theorem places_expectIdentifier (what : String) : PlacesErrors S (expectIdentifier what) := by
  rw [expectIdentifier]
  refine places_peek?.bind fun t? ht => ?_
  cases t? with
  | none => exact places_endOfInput what
  | some t => exact places_ite (fun _ => (places_skip 1).map _) fun _ => places_unexpected (ht t rfl) what

theorem places_nameParts (first : String) : PlacesErrors S (nameParts first) :=
  places_loop fun _ _ => (places_skip 2).map _

theorem places_qualifiedName (what : String) : PlacesErrors S (qualifiedName what) :=
  (places_expectIdentifier what).then places_nameParts

theorem places_parenthesized (hp : PlacesErrors S p) : PlacesErrors S (parenthesized p) := by
  rw [parenthesized]
  exact (places_expectSymbol "(").forget.then fun opening => hp.then fun _ => (places_expectClosing opening).map _

theorem places_identifierList (what : String) : PlacesErrors S (identifierList what) :=
  places_parenthesized (places_commaList (places_expectIdentifier what))

/-! ### Words, types and literals -/

theorem places_collationName : PlacesErrors S collationName := by
  rw [collationName]
  refine (places_nextToken _).bind fun t ht => places_ite (fun _ => ?_) fun _ => places_unexpected ht _
  split
  · exact places_pure trivial
  · exact places_fail ht

theorem places_numberValue {t : Token} (ht : S t.offset) (negative : Bool) :
    PlacesErrors S (ofExcept (numberValue t negative) : Parser Value) := by
  refine places_ofExcept fun e he => ?_
  rw [numberValue] at he
  generalize (if negative then '-' :: t.text.toList else t.text.toList) = cs at he
  generalize (if isFloatText cs then none else Number.readInt64? cs) = i? at he
  cases i? with
  | some i => cases he
  | none =>
    dsimp only at he
    split at he
    · cases he
    · cases he
      exact ht

theorem places_blobValue {t : Token} (ht : S t.offset) : PlacesErrors S (ofExcept (blobValue t) : Parser Value) := by
  refine places_ofExcept fun e he => ?_
  rw [blobValue] at he
  split at he
  · cases he
  · cases he
    exact ht

theorem places_typeWords : PlacesErrors S typeWords :=
  PlacesErrors.then (places_loop fun _ _ => (places_skip 1).map _) fun _ => places_pure trivial

theorem places_typeSize : PlacesErrors S typeSize := by
  have hnumber (negative : Bool) : PlacesErrors S (do
      let t ← nextToken "type size"
      if t.kind = .number then return sizeOf (← ofExcept (numberValue t negative))
      else fail (unexpected t "type size") : Parser (Option Int64)) :=
    (places_nextToken _).bind fun t ht =>
      places_ite (fun _ => (places_numberValue ht negative).map _) fun _ => places_unexpected ht _
  rw [typeSize]
  refine (places_eatSymbol "-").then fun negative => ?_
  cases negative with
  | true => exact hnumber true
  | false => exact (places_eatSymbol "+").then fun _ => hnumber false

theorem places_typeName? : PlacesErrors S typeName? := by
  rw [typeName?]
  refine places_typeWords.then fun words => places_ite (fun _ => places_pure trivial) fun _ => ?_
  refine (places_nextIsSymbol "(").then fun _ => places_ite (fun _ => ?_) fun _ => places_pure trivial
  exact (places_parenthesized (places_commaList places_typeSize)).map _

theorem places_malformedArguments (function reason : String) :
    Places S (malformedArguments function reason : Parser β) Q :=
  places_offset.bind fun _ hn => places_fail hn

theorem places_malformedCase (reason : String) : Places S (malformedCase reason : Parser β) Q :=
  places_offset.bind fun _ hn => places_fail hn

end

/-! ### Expressions -/

namespace Levels

/-- The errors of the readers for nested parts are at some places if the tokens ahead are. -/
structure PlacesErrors (S : Nat → Prop) (inner : Levels) : Prop where
  operand : Parser.PlacesErrors S inner.operand
  expression : ∀ least, Parser.PlacesErrors S (inner.expression least)

variable {S : Nat → Prop} {inner : Levels}

theorem places_argument (h : inner.PlacesErrors S) (function : String) :
    Parser.PlacesErrors S (inner.argument function) := by
  have hread (isEmpty : Bool) : Parser.PlacesErrors S
      (if isEmpty then malformedArguments function "empty argument" else inner.expression Precedence.lowest) :=
    places_ite (fun _ => places_malformedArguments _ _) fun _ => h.expression _
  rw [argument]
  exact (places_nextIsSymbol ")").then fun closing => (places_nextIsSymbol ",").then fun comma => hread _

theorem places_closeCall (function : String) (opening : Nat) : Parser.PlacesErrors S (closeCall function opening) := by
  rw [closeCall]
  refine places_peek?.bind fun t? _ => ?_
  cases t? with
  | none => exact places_stop.bind fun _ hn => places_fail hn
  | some t => exact places_ite (fun _ => places_skip 1) fun _ => places_malformedArguments _ _

theorem places_callArguments (h : inner.PlacesErrors S) (f : Builtin) (function : String) :
    Parser.PlacesErrors S (inner.callArguments f function) := by
  rw [callArguments]
  refine (places_expectSymbol "(").forget.then fun opening => (places_eatSymbol ")").then fun _ => ?_
  refine places_ite (fun _ => places_pure trivial) fun _ => places_ahead.then fun _ => ?_
  refine places_ite (fun _ => (places_skip 2).map _) fun _ => (places_nextIsKeyword _).then fun _ => ?_
  refine places_ite (fun _ => places_malformedArguments _ _) fun _ => ?_
  exact (places_commaList (places_argument h function)).then fun args => (places_closeCall function opening).map _

theorem places_clause (h : inner.PlacesErrors S) : Parser.PlacesErrors S inner.clause := by
  rw [clause]
  refine (h.expression _).then fun condition => (places_eatKeyword _).then fun _ => ?_
  exact places_ite (fun _ => (h.expression _).map _) fun _ => places_malformedCase _

theorem places_clauses (h : inner.PlacesErrors S) : Parser.PlacesErrors S inner.clauses := by
  rw [clauses]
  refine (places_nextIsKeyword _).then fun _ => places_ite (fun _ => ?_) fun _ => places_malformedCase _
  refine PlacesErrors.then (places_loop fun _ read => ?_) fun _ => places_pure trivial
  exact (places_skip 1).then fun _ => (places_clause h).map _

theorem places_otherwise (h : inner.PlacesErrors S) (start : Nat) : Parser.PlacesErrors S (inner.otherwise start) := by
  rw [otherwise]
  refine (places_eatKeyword _).then fun _ => places_ite (fun _ => h.expression _) fun _ => ?_
  exact (places_nextIsKeyword _).then fun _ =>
    places_ite (fun _ => places_malformedCase _) fun _ => places_malformedCase _

theorem places_caseOperand? (h : inner.PlacesErrors S) : Parser.PlacesErrors S inner.caseOperand? := by
  have hread (isClosed : Bool) : Parser.PlacesErrors S
      (if isClosed then malformedCase "expected WHEN" else return some (← inner.expression Precedence.lowest)) :=
    places_ite (fun _ => places_malformedCase _) fun _ => (h.expression _).map _
  rw [caseOperand?]
  refine (places_nextIsKeyword _).then fun _ => places_ite (fun _ => places_pure trivial) fun _ => ?_
  exact (places_nextIsKeyword _).then fun _ => (places_nextIsKeyword _).then fun _ => hread _

theorem places_caseExpression (h : inner.PlacesErrors S) (start : Nat) :
    Parser.PlacesErrors S (inner.caseExpression start) := by
  rw [caseExpression]
  refine (places_caseOperand? h).then fun operand? => (places_clauses h).then fun clauses => ?_
  refine (places_otherwise h start).then fun otherwise => (places_eatKeyword _).then fun _ => ?_
  refine places_ite (fun _ => ?_) fun _ => places_malformedCase _
  cases operand? <;> exact places_pure trivial

theorem places_castExpression (h : inner.PlacesErrors S) (function : String) :
    Parser.PlacesErrors S (inner.castExpression function) := by
  rw [castExpression]
  refine places_parenthesized ((h.expression _).then fun operand => (places_expectKeyword _).then fun _ => ?_)
  refine places_typeName?.then fun target? => ?_
  cases target? with
  | some target => exact places_pure trivial
  | none => exact places_malformedArguments _ _

theorem places_wordOperand (h : inner.PlacesErrors S) : Parser.PlacesErrors S inner.wordOperand := by
  rw [wordOperand]
  refine (places_nextToken _).bind fun t ht => (places_nextIsSymbol "(").then fun isCall => ?_
  split
  · exact places_pure trivial
  · exact places_pure trivial
  · exact places_pure trivial
  · exact places_caseExpression h _
  · exact places_castExpression h _
  · split
    · exact (places_callArguments h _ _).map _
    · exact places_ite (fun _ => places_unexpected ht _) fun _ => places_fail ht
    · exact places_ite (fun _ => places_unexpected ht _) fun _ => (places_nameParts _).map _

theorem places_primary (h : inner.PlacesErrors S) : Parser.PlacesErrors S inner.primary := by
  rw [primary]
  refine places_peek?.bind fun t? ht => ?_
  cases t? with
  | none => exact places_endOfInput _
  | some t =>
    have hplace : S t.offset := ht t rfl
    dsimp only
    split
    · exact (places_skip 1).then fun _ => (places_numberValue hplace false).map _
    · exact (places_skip 1).map _
    · exact (places_skip 1).then fun _ => (places_blobValue hplace).map _
    · exact (places_skip 1).then fun _ => (places_nameParts _).map _
    · exact places_ite (fun _ => places_parenthesized (h.expression _)) fun _ => places_unexpected hplace _
    · exact places_wordOperand h

theorem places_signed (h : inner.PlacesErrors S) (op : UnaryOperator) : Parser.PlacesErrors S (inner.signed op) := by
  rw [signed]
  refine places_peek?.bind fun t? ht => ?_
  cases t? with
  | none => exact h.operand.map _
  | some t =>
    refine places_ite (fun _ => ?_) fun _ => h.operand.map _
    exact (places_skip 1).then fun _ => (places_numberValue (ht t rfl) true).map _

theorem places_unary (h : inner.PlacesErrors S) : Parser.PlacesErrors S inner.unary := by
  rw [unary]
  refine (places_eatKeyword _).then fun _ => places_ite (fun _ => (h.expression _).map _) fun _ => ?_
  refine places_peek?.bind fun t? _ => ?_
  split
  · exact (places_skip 1).then fun _ => places_signed h _
  · exact places_primary h

theorem places_candidates (h : inner.PlacesErrors S) : Parser.PlacesErrors S inner.candidates := by
  rw [candidates]
  refine (places_expectSymbol "(").forget.then fun opening => (places_eatSymbol ")").then fun _ => ?_
  refine places_ite (fun _ => places_pure trivial) fun _ => (places_commaList (h.expression _)).then fun es => ?_
  exact (places_expectClosing opening).map _

theorem places_continueWith (h : inner.PlacesErrors S) (left : Expr) (c : Continuation) :
    Parser.PlacesErrors S (inner.continueWith left c) := by
  cases c with
  | binary op negate => exact (h.expression _).map _
  | between negate =>
    rw [continueWith]
    exact (h.expression _).then fun low => (places_expectKeyword _).then fun _ => (h.expression _).map _
  | among negate => exact (places_candidates h).map _
  | nullTest negate => exact places_pure trivial
  | collate => exact places_collationName.map _

theorem places_extend (h : inner.PlacesErrors S) (least : Nat) (left : Expr) :
    Parser.PlacesErrors S (inner.extend least left) := by
  refine places_loop fun (c, isPair) left => (places_skip 1).then fun _ => ?_
  cases isPair with
  | true => exact (places_skip 1).then fun _ => places_continueWith h left c
  | false => exact places_continueWith h left c

end Levels

section

variable {S : Nat → Prop}

theorem places_tooDeep : PlacesErrors S tooDeep :=
  places_offset.bind fun _ hn => places_fail hn

/-- One level of nesting after the other. -/
theorem placesErrors_levels (n : Nat) : (levels n).PlacesErrors S := by
  induction n with
  | zero => exact { operand := places_tooDeep, expression := fun _ => places_tooDeep }
  | succ n ih =>
    have hunary := Levels.places_unary ih
    exact { operand := hunary, expression := fun least => hunary.then fun left => Levels.places_extend ih least left }

theorem places_expression : PlacesErrors S expression :=
  (placesErrors_levels nestingLimit).expression _

theorem places_literal : PlacesErrors S (levels nestingLimit).primary :=
  Levels.places_primary (placesErrors_levels nestingLimit)

/-! ### Tables -/

theorem places_descending : PlacesErrors S descending := by
  rw [descending]
  refine (places_eatKeyword _).then fun _ => places_ite (fun _ => places_pure trivial) fun _ => ?_
  exact (places_eatKeyword _).map _

theorem places_signedDefault (negative : Bool) : PlacesErrors S (signedDefault negative) := by
  rw [signedDefault]
  exact (places_nextToken _).bind fun t ht =>
    places_ite (fun _ => (places_numberValue ht negative).map _) fun _ => places_unexpected ht _

theorem places_defaultValue : PlacesErrors S defaultValue := by
  rw [defaultValue]
  refine places_peek?.bind fun t? ht => ?_
  cases t? with
  | none => exact places_endOfInput _
  | some t =>
    have hplace : S t.offset := ht t rfl
    dsimp only
    split
    · refine places_ite (fun _ => places_parenthesized places_expression) fun _ => ?_
      split
      · exact (places_skip 1).then fun _ => places_signedDefault _
      · exact places_unexpected hplace _
    · exact places_literal
    · exact places_literal
    · exact places_literal
    · split
      · exact places_ite (fun _ => places_literal) fun _ => places_unexpected hplace _
      · exact (places_skip 1).map _
    · exact places_unexpected hplace _

theorem places_foreignKeyTarget : PlacesErrors S foreignKeyTarget := by
  rw [foreignKeyTarget]
  refine (places_qualifiedName _).then fun table => (places_nextIsSymbol "(").then fun _ => ?_
  exact places_ite (fun _ => (places_identifierList _).map _) fun _ => places_pure trivial

theorem places_columnClause (word : Keyword) (name : Option String) (column : Column) :
    PlacesErrors S (columnClause word name column) := by
  unfold columnClause
  split
  · exact (places_expectKeyword _).then fun _ => places_descending.then fun _ => (places_eatKeyword _).map _
  · exact (places_expectKeyword _).map _
  · exact places_pure trivial
  · exact places_defaultValue.map _
  · exact places_pure trivial
  · exact (places_parenthesized places_expression).map _
  · exact places_collationName.map _
  · exact places_foreignKeyTarget.map _
  · exact places_errorAtFront _

theorem places_namedColumnClause (word : Keyword) (column : Column) : PlacesErrors S (namedColumnClause word column) := by
  rw [namedColumnClause]
  refine places_ite (fun _ => ?_) fun _ => places_columnClause _ _ _
  refine (places_expectIdentifier _).then fun name => places_peekKeyword?.then fun next => ?_
  split
  · exact (places_skip 1).then fun _ => places_columnClause _ _ _
  · exact places_errorAtFront _

theorem places_column : PlacesErrors S column := by
  rw [column]
  refine (places_expectIdentifier _).then fun name => places_typeName?.then fun type => places_loop fun word column => ?_
  exact (places_skip 1).then fun _ => places_namedColumnClause word column

theorem places_tableConstraintKind : PlacesErrors S tableConstraintKind := by
  rw [tableConstraintKind]
  refine (places_nextToken _).bind fun t ht => ?_
  split
  · exact (places_expectKeyword _).then fun _ => (places_identifierList _).map _
  · exact (places_identifierList _).map _
  · exact (places_parenthesized places_expression).map _
  · exact (places_expectKeyword _).then fun _ => (places_identifierList _).then fun _ =>
      (places_expectKeyword _).then fun _ => places_foreignKeyTarget.map _
  · exact places_unexpected ht _

theorem places_tableConstraint : PlacesErrors S tableConstraint := by
  rw [tableConstraint]
  refine (places_eatKeyword _).then fun _ => places_ite (fun _ => ?_) fun _ => places_tableConstraintKind.map _
  exact (places_expectIdentifier _).then fun name => places_tableConstraintKind.map _

theorem places_tablePart (parts : TableParts) : PlacesErrors S (tablePart parts) := by
  rw [tablePart]
  refine places_peekKeyword?.then fun word => places_ite (fun _ => places_tableConstraint.map _) fun _ => ?_
  exact places_ite (fun _ => places_column.map _) fun _ => places_errorAtFront _

theorem places_tableParts : PlacesErrors S tableParts := by
  rw [tableParts]
  refine (places_tablePart _).then fun parts => places_loop fun _ parts => ?_
  exact (places_skip 1).then fun _ => places_tablePart parts

theorem places_ifNotExists : PlacesErrors S ifNotExists := by
  rw [ifNotExists]
  refine (places_eatKeyword _).then fun _ => places_ite (fun _ => ?_) fun _ => places_pure trivial
  exact (places_expectKeyword _).then fun _ => (places_expectKeyword _).map _

/-- A table without columns is reported at its parenthesis. -/
theorem places_createTable : PlacesErrors S createTable := by
  rw [createTable]
  refine (places_expectKeyword _).then fun _ => places_ifNotExists.then fun _ => ?_
  refine (places_qualifiedName _).then fun name => ?_
  refine (places_expectSymbol "(").bind fun opening hopening => places_tableParts.then fun parts => ?_
  refine (places_expectClosing opening).then fun _ => ?_
  exact places_ite (fun _ => places_fail hopening) fun _ => places_pure trivial

theorem places_dropTable : PlacesErrors S dropTable := by
  have hifExists : PlacesErrors S ifExists := by
    rw [ifExists]
    exact (places_eatKeyword _).then fun _ =>
      places_ite (fun _ => (places_expectKeyword _).map _) fun _ => places_pure trivial
  rw [dropTable]
  exact (places_expectKeyword _).then fun _ => hifExists.then fun _ => (places_qualifiedName _).map _

/-! ### Rows -/

theorem places_conflictResolution : PlacesErrors S conflictResolution := by
  rw [conflictResolution]
  refine (places_nextToken _).bind fun t ht => ?_
  split
  · exact places_pure trivial
  · exact places_pure trivial
  · exact places_pure trivial
  · exact places_pure trivial
  · exact places_pure trivial
  · exact places_unexpected ht _

/-- A row with too few or too many values is reported at its parenthesis. -/
theorem places_row (columns : List String) : PlacesErrors S (row columns) := by
  rw [row]
  refine (places_expectSymbol "(").bind fun opening hopening => (places_commaList places_expression).then fun values => ?_
  refine (places_expectClosing opening).then fun _ => ?_
  exact places_ite (fun _ => places_pure trivial) fun _ => places_fail hopening

theorem places_insertInto (onConflict : Option ConflictResolution) : PlacesErrors S (insertInto onConflict) := by
  have hrows (table : String) (columns : List String) : PlacesErrors S (do
      expectKeyword .VALUES
      return { table, columns, rows := ← commaList (row columns), onConflict } : Parser Insert) :=
    (places_expectKeyword _).then fun _ => (places_commaList (places_row columns)).map _
  rw [insertInto]
  refine (places_expectKeyword _).then fun _ => (places_qualifiedName _).then fun table => ?_
  refine (places_nextIsSymbol "(").then fun opens => ?_
  cases opens with
  | true => exact (places_identifierList _).then (hrows table)
  | false => exact hrows table []

theorem places_insert : PlacesErrors S insert := by
  rw [insert]
  refine (places_eatKeyword _).then fun _ => places_ite (fun _ => ?_) fun _ => places_insertInto _
  exact places_conflictResolution.then fun _ => places_insertInto _

theorem places_whereClause : PlacesErrors S whereClause := by
  rw [whereClause]
  exact (places_eatKeyword _).then fun _ => places_ite (fun _ => places_expression.map _) fun _ => places_pure trivial

theorem places_assignment : PlacesErrors S assignment := by
  rw [assignment]
  exact (places_expectIdentifier _).then fun column => (places_expectSymbol "=").forget.then fun _ =>
    places_expression.map _

theorem places_update : PlacesErrors S update := by
  rw [update]
  exact (places_qualifiedName _).then fun table => (places_expectKeyword _).then fun _ =>
    (places_commaList places_assignment).then fun _ => places_whereClause.map _

theorem places_delete : PlacesErrors S delete := by
  rw [delete]
  exact (places_expectKeyword _).then fun _ => (places_qualifiedName _).then fun table => places_whereClause.map _

/-! ### Queries -/

theorem places_columnAlias : PlacesErrors S columnAlias := by
  rw [columnAlias]
  refine (places_eatKeyword _).then fun _ => places_ite (fun _ => (places_expectIdentifier _).map _) fun _ => ?_
  refine places_peek?.bind fun t? _ => ?_
  cases t? with
  | none => exact places_pure trivial
  | some t => exact places_ite (fun _ => (places_skip 1).map _) fun _ => places_pure trivial

theorem places_resultColumn : PlacesErrors S resultColumn := by
  rw [resultColumn]
  refine (places_eatSymbol "*").then fun _ => places_ite (fun _ => places_pure trivial) fun _ => ?_
  exact places_expression.then fun e => places_columnAlias.map _

theorem places_distinct : PlacesErrors S distinct := by
  rw [distinct]
  refine (places_eatKeyword _).then fun _ => places_ite (fun _ => places_pure trivial) fun _ => ?_
  exact (places_eatKeyword _).map _

theorem places_fromClause : PlacesErrors S fromClause := by
  rw [fromClause]
  exact (places_eatKeyword _).then fun _ =>
    places_ite (fun _ => (places_qualifiedName _).map _) fun _ => places_pure trivial

theorem places_orderClause : PlacesErrors S orderClause := by
  have hterm : PlacesErrors S orderingTerm := places_expression.then fun key => places_descending.map _
  rw [orderClause]
  refine (places_eatKeyword _).then fun _ => places_ite (fun _ => ?_) fun _ => places_pure trivial
  exact (places_expectKeyword _).then fun _ => places_commaList hterm

theorem places_limitClause : PlacesErrors S limitClause := by
  rw [limitClause]
  refine (places_eatKeyword _).then fun _ => places_ite (fun _ => ?_) fun _ => places_pure trivial
  refine places_expression.then fun first => (places_eatKeyword _).then fun _ => ?_
  refine places_ite (fun _ => places_expression.map _) fun _ => (places_eatSymbol ",").then fun _ => ?_
  exact places_ite (fun _ => places_expression.map _) fun _ => places_pure trivial

theorem places_select : PlacesErrors S select := by
  rw [select]
  refine places_distinct.then fun distinct => (places_commaList places_resultColumn).then fun columns => ?_
  refine places_fromClause.then fun table => places_whereClause.then fun condition => ?_
  exact places_orderClause.then fun ordering => places_limitClause.map _

/-! ### Whole texts -/

theorem places_statementFrom {t : Token} (ht : S t.offset) : PlacesErrors S (statementFrom t) := by
  rw [statementFrom]
  split
  · next body hbody? =>
    obtain ⟨k, -, hk⟩ := Option.bind_eq_some_iff.1 hbody?
    refine (places_skip 1).then fun _ => ?_
    unfold statementBody? at hk
    split at hk <;> cases hk
    · exact places_createTable.map _
    · exact places_dropTable.map _
    · exact places_insert.map _
    · exact (places_insertInto _).map _
    · exact places_update.map _
    · exact places_delete.map _
    · exact places_select.map _
  · exact places_ite (fun _ => places_fail ht) fun _ => places_unexpected ht _

theorem places_endOfStatement : PlacesErrors S endOfStatement := by
  rw [endOfStatement]
  refine places_peek?.bind fun t? ht => ?_
  cases t? with
  | none => exact places_pure trivial
  | some t => exact places_ite (fun _ => places_skip 1) fun _ => places_unexpected (ht t rfl) _

theorem places_sequenceItem (index : Nat) {t : Token} (ht : S t.offset) : PlacesErrors S (sequenceItem index t) :=
  Places.mapError ((places_statementFrom ht).then fun _ => places_endOfStatement.map _) fun _ => rfl

theorem places_sequenceStep {t : Token} (ht : S t.offset) (read : List Statement) :
    PlacesErrors S (sequenceStep t read) := by
  rw [sequenceStep]
  refine places_ite (fun _ => (places_skip 1).map _) fun _ => ?_
  exact (places_sequenceItem read.length ht).map _

/-- **The errors of statements** are at tokens or at the end of the text. -/
theorem places_statements : PlacesErrors S statements := by
  rw [statements]
  refine PlacesErrors.then (places_loop_of (B := fun t => S t.offset) ?_ ?_) fun _ => places_pure trivial
  · exact fun input t hinput ht => hinput t (List.mem_of_head? ht)
  · exact fun t read ht => places_sequenceStep ht read

/-- **The errors of formulas** are at tokens or at the end of the text. -/
theorem places_formula : PlacesErrors S formula := by
  rw [formula]
  refine places_expression.then fun e => (places_eatSymbol ";").then fun _ => places_peek?.bind fun t? ht => ?_
  cases t? with
  | none => exact places_pure trivial
  | some t => exact places_unexpected (ht t rfl) _

end

end SqlFormula.Parser

namespace SqlFormula

open SqlFormula.Parser

/-! ### Places in a text -/

/-- A byte offset lies within a text, on a boundary of its characters. -/
def SplitsAt (text : String) (place : Nat) : Prop :=
  ∃ front back, text = front ++ back ∧ front.utf8ByteSize = place

/-- Where the error of a text is. -/
inductive LocatedIn (text : String) (e : ParseError) : Prop where
  /-- The tokens end where a literal opens that is never closed. -/
  | literal {u : Unterminated} {front back : String} (htokens : tokenize text = .error u) (he : e = .unterminated u)
      (hsplit : text = front ++ back) (hplace : front.utf8ByteSize = e.offset) (hfront : ∃ ts, tokenize front = .ok ts)
      (hback : IsUnclosed u.kind back.toList)
  | token {ts : List Token} {t : Token} (htokens : tokenize text = .ok ts) (ht : t ∈ ts) (hplace : e.offset = t.offset)
  | atEnd {ts : List Token} (htokens : tokenize text = .ok ts) (hplace : e.offset = text.utf8ByteSize)

variable {text : String} {e : ParseError}

/-- A reader that takes its places from the tokens ahead and from the end takes them from the text. -/
theorem locatedIn_of_runOn {α : Type} {p : Parser α} (hp : ∀ S, PlacesErrors S p) (h : p.runOn text = .error e) :
    LocatedIn text e := by
  rw [runOn] at h
  cases htokens : tokenize text with
  | error u =>
    rw [htokens] at h
    cases h
    obtain ⟨front, back, hsplit, hplace, hfront, hback⟩ := tokenize_unclosed htokens
    exact .literal htokens rfl hsplit hplace hfront hback
  | ok ts =>
    rw [htokens] at h
    generalize hrun : p.run text.utf8ByteSize ts = outcome
    obtain ⟨result, rest⟩ := outcome
    dsimp only at h
    rw [hrun] at h
    obtain rfl : result = .error e := h
    -- the places are those of the tokens and the end of the text
    have hwithin : Within (fun n => (∃ t ∈ ts, n = t.offset) ∨ n = text.utf8ByteSize) text.utf8ByteSize ts :=
      ⟨.inr rfl, fun t ht => .inl ⟨t, ht, rfl⟩⟩
    obtain ⟨t, ht, hplace⟩ | hplace := (hp _).error hwithin hrun
    · exact .token htokens ht hplace
    · exact .atEnd htokens hplace

theorem LocatedIn.splitsAt (h : LocatedIn text e) : SplitsAt text e.offset := by
  cases h with
  | literal _ _ hsplit hplace _ _ => exact ⟨_, _, hsplit, hplace⟩
  | token htokens ht hplace =>
    obtain ⟨i, hi, rfl⟩ := List.getElem_of_mem ht
    obtain ⟨front, back, hsplit, hfront, -⟩ := tokenize_split htokens hi
    exact ⟨front, back, hsplit, hfront.trans hplace.symm⟩
  | atEnd _ hplace => exact ⟨text, "", (String.append_empty).symm, hplace.symm⟩

/-- An error tells the statement that is wrong: the text in front of that statement consists of as many statements as the
index of the error tells, and from there on the first statement is wrong at the same place. -/
def CountsStatements (text : String) (index : Nat) (inner : ParseError) : Prop :=
  ∃ front back, text = front ++ back ∧ (∃ ss, parseStatements front = .ok ss ∧ ss.length = index) ∧
    ∃ near, parseStatements back = .error (.inStatement 0 near) ∧ inner.name = near.name ∧
      inner.offset = near.offset + front.utf8ByteSize

theorem countsStatements_of_error {ts : List Token} (htokens : tokenize text = .ok ts)
    (h : parseStatements text = .error e) : ∃ index inner, e = .inStatement index inner ∧
      CountsStatements text index inner := by
  rw [parseStatements_eq htokens] at h
  generalize hrun : (sequence []).run text.utf8ByteSize ts = outcome at h
  obtain ⟨e' | read, left⟩ := outcome
  · obtain rfl : e' = e := by
      cases h
      rfl
    obtain ⟨front, t, back, before, rfl, ht, hfront, hitem⟩ := exists_of_run_sequence_error hrun
    rw [List.append_nil] at hitem
    -- the text in front of the wrong statement, and from it on
    have hi : front.length < (front ++ t :: back).length := by simp
    have hget : (front ++ t :: back)[front.length] = t := by simp
    obtain ⟨a, b, hsplit, hplace, ha, us, hb, hus⟩ := tokenize_split htokens hi
    rw [hget] at hplace hus
    rw [List.take_left] at ha
    rw [List.drop_left] at hus
    have hsize : text.utf8ByteSize = b.utf8ByteSize + t.offset := by
      rw [hsplit, String.utf8ByteSize_append, hplace, Nat.add_comm]
    obtain ⟨u, us, rfl⟩ : ∃ u us', us = u :: us' := by
      cases us with
      | nil => cases hus
      | cons u us => exact ⟨u, us, rfl⟩
    have hu : t = u.shift t.offset := (List.cons.inj hus).1
    have husymbol : u.isSymbol ";" = false := by
      rw [hu] at ht
      exact ht
    rw [hsize, hus] at hitem
    have hwrong : (sequenceItem before.length (u.shift t.offset)).run (b.utf8ByteSize + t.offset)
        ((u :: us).map (Token.shift t.offset)) = (.error e', left) := hu ▸ hitem
    obtain ⟨inner, near, left', he, hnear, hname, hoffset⟩ := sequence_error_alone husymbol hwrong
    refine ⟨before.length, inner, he, a, b, hsplit, ⟨before.reverse, ?_, List.length_reverse⟩, near, ?_, hname, ?_⟩
    · rw [parseStatements_eq ha, hfront, List.append_nil]
      rfl
    · rw [parseStatements_eq hb, hnear]
      rfl
    · rw [hoffset, hplace]
  · cases h

/-- **Where errors are**, for every text. An error is at one of its tokens, at its end, or where a literal opens that is
never closed, so it lies within the text, on a boundary of characters. An error of statements is that of a literal, or it
tells how many statements stand in front of the wrong one. -/
theorem parse_errors (text : String) :
    (∀ e, parseFormula text = .error e → LocatedIn text e ∧ SplitsAt text e.offset) ∧
      ∀ e, parseStatements text = .error e → LocatedIn text e ∧ SplitsAt text e.offset ∧
        ((∃ u, tokenize text = .error u ∧ e = .unterminated u) ∨
          ∃ index inner, e = .inStatement index inner ∧ CountsStatements text index inner) := by
  refine ⟨fun e h => ?_, fun e h => ?_⟩
  · have hlocated := locatedIn_of_runOn (fun _ => places_formula) h
    exact ⟨hlocated, hlocated.splitsAt⟩
  · have hlocated := locatedIn_of_runOn (fun _ => places_statements) h
    refine ⟨hlocated, hlocated.splitsAt, ?_⟩
    cases htokens : tokenize text with
    | error u =>
      rw [parseStatements, runOn, htokens] at h
      cases h
      exact .inl ⟨u, rfl, rfl⟩
    | ok ts => exact .inr (countsStatements_of_error htokens h)

/-- The second of two statements is wrong at its second word. -/
theorem parse_errors_drop : ∃ inner, parseStatements "DROP TABLE t; DROP t" = .error (.inStatement 1 inner) ∧
    inner.offset = 19 ∧ LocatedIn "DROP TABLE t; DROP t" (.inStatement 1 inner) ∧
      CountsStatements "DROP TABLE t; DROP t" 1 inner := by
  have herror : List.length <$> parseStatements "DROP TABLE t; DROP t" =
      .error (.inStatement 1 (.unexpectedToken "TABLE" "t" 19)) := by
    with_unfolding_all decide
  have hparse : parseStatements "DROP TABLE t; DROP t" = .error (.inStatement 1 (.unexpectedToken "TABLE" "t" 19)) := by
    cases h : parseStatements "DROP TABLE t; DROP t" with
    | ok ss =>
      rw [h] at herror
      cases herror
    | error e =>
      rw [h] at herror
      cases herror
      rfl
  obtain ⟨hlocated, -, hindex⟩ := (parse_errors "DROP TABLE t; DROP t").2 _ hparse
  obtain ⟨u, -, hu⟩ | ⟨index, inner, hinner, hcounts⟩ := hindex
  · cases hu
  · cases hinner
    exact ⟨_, hparse, rfl, hlocated, hcounts⟩

end SqlFormula
