import SqlFormula.Proofs.Parse.Results

/-!
# What holds of everything that is read as an expression

The grammar makes each node of parts that it has read before. So what passes from the parts of such a node to the node
holds of every expression that is read.

## Main definitions

- `Expr.Passes` — what the parts of a node satisfy, and what the node then satisfies
- `Parser.Levels.Gives` — what holds of the results of the readers of a level

## Main statements

- `Parser.Levels.ensures_unary` — operands, made of parts from the level below
- `Parser.holdsOfRead_of_passes` — an invariant of nodes holds of every expression that is read
-/

namespace SqlFormula

/-- `Q` holds of every node that the grammar makes of parts with `P`, and of such a part in parentheses. -/
structure Expr.Passes (P Q : Expr → Prop) : Prop where
  enclosed : ∀ {e}, P e → Q e
  node : ∀ {e : Expr}, e.IsProper → (∀ p ∈ e.parts, P p) → Q e

namespace Parser

open Reader Levels

section

variable {α : Type} {Q : α → List Token → Prop}

theorem ensures_malformedArguments (function reason : String) : (malformedArguments function reason).Ensures Q :=
  ensures_bind fun _ => ensures_fail _

theorem ensures_malformedCase (reason : String) : (malformedCase reason).Ensures Q :=
  ensures_bind fun _ => ensures_fail _

theorem ensures_tooDeep {Q : Expr → List Token → Prop} : tooDeep.Ensures Q :=
  ensures_bind fun _ => ensures_fail _

end

/-- Only `IS` and the pattern operators can follow an operand together with `NOT`. -/
theorem hasOpposite_of_continuation? {ts : List Token} {op : BinaryOperator} {isPair : Bool}
    (h : continuation? ts = some (.binary op true, isPair)) : op = .is ∨ op.isPattern = true := by
  have hpattern {k : Keyword} {op : BinaryOperator} (hk : patternOperator? k = some op) : op.isPattern = true := by
    unfold patternOperator? at hk
    split at hk <;> cases hk <;> rfl
  cases ts with
  | nil => cases h
  | cons t rest =>
    rw [continuation?] at h
    split at h
    · cases h
    · split at h
      · cases h
      · unfold wordContinuation? at h
        split at h
        any_goals cases h
        · split at h <;> cases h
          exact .inl rfl
        · split at h
          any_goals cases h
          obtain ⟨op', hop, heq⟩ := Option.map_eq_some_iff.1 h
          cases heq
          exact .inr (hpattern hop)
        · obtain ⟨op', hop, heq⟩ := Option.map_eq_some_iff.1 h
          cases heq

namespace Levels

/-- What holds of the results of the readers of a level. -/
structure Gives (inner : Levels) (P : Expr → Prop) : Prop where
  operand : inner.operand.Ensures fun e _ => P e
  expression : ∀ least, (inner.expression least).Ensures fun e _ => P e

variable {inner : Levels} {P Q : Expr → Prop}

/-! ### Parts between the marks of a notation -/

theorem ensures_argument (h : Gives inner P) (name : String) : (inner.argument name).Ensures fun e _ => P e := by
  rw [argument]
  refine ensures_bind fun closing => ensures_bind fun comma => ?_
  split
  · exact ensures_malformedArguments _ _
  · exact h.expression _

theorem ensures_callArguments (h : Gives inner P) (f : Builtin) (name : String) :
    (inner.callArguments f name).Ensures fun es _ => ∀ e ∈ es, P e := by
  rw [callArguments]
  refine ensures_bind fun opening => ensures_bind fun empty => ?_
  split
  · exact ensures_pure fun _ => List.forall_mem_nil _
  · refine ensures_bind fun input => ?_
    split
    · exact ensures_bind fun _ => ensures_pure fun _ => List.forall_mem_nil _
    · refine ensures_bind fun distinct => ?_
      split
      · exact ensures_malformedArguments _ _
      · exact (ensures_argument h name).sepBy1.bind fun args _ hargs => ensures_bind fun _ => ensures_pure fun _ => hargs

theorem ensures_candidates (h : Gives inner P) : inner.candidates.Ensures fun es _ => ∀ e ∈ es, P e := by
  rw [candidates]
  refine ensures_bind fun opening => ensures_bind fun empty => ?_
  split
  · exact ensures_pure fun _ => List.forall_mem_nil _
  · exact (h.expression _).sepBy1.bind fun es _ hes => ensures_bind fun _ => ensures_pure fun _ => hes

theorem ensures_clause (h : Gives inner P) : inner.clause.Ensures fun c _ => P c.1 ∧ P c.2 := by
  rw [clause]
  refine (h.expression _).bind fun condition _ hcondition => ensures_bind fun found => ?_
  split
  · exact (h.expression _).bind fun result _ hresult => ensures_pure fun _ => ⟨hcondition, hresult⟩
  · exact ensures_malformedCase _

/-- There is at least one clause, since the first `WHEN` is seen before the loop. -/
theorem ensures_clauses (h : Gives inner P) :
    inner.clauses.Ensures fun cs _ => cs ≠ [] ∧ ∀ c ∈ cs, P c.1 ∧ P c.2 := by
  intro stop input cs rest hrun
  have hnext : (nextIsKeyword .WHEN).run stop input =
      (.ok (decide (input.head?.bind Token.keyword? = some .WHEN)), input) := rfl
  rw [clauses, run_bind_ok hnext] at hrun
  split at hrun
  · next hwhen =>
    have hahead : input ≠ [] ∧ whenAhead? input = some () := by
      cases input with
      | nil => cases hwhen
      | cons t ts =>
        have ht : t.keyword? = some .WHEN := of_decide_eq_true hwhen
        refine ⟨List.cons_ne_nil _ _, ?_⟩
        simp [whenAhead?, Token.isKeyword, ht]
    obtain ⟨read, rest', hloop, hpure⟩ := exists_of_run_bind hrun
    cases hpure
    -- for as long as no clause is read, one is called for
    let I (read : List (Expr × Expr)) (input : List Token) : Prop :=
      (read = [] → input ≠ [] ∧ whenAhead? input = some ()) ∧ ∀ c ∈ read, P c.1 ∧ P c.2
    have hstart : I [] input := ⟨fun _ => hahead, List.forall_mem_nil _⟩
    have hcons {c : Expr × Expr} {read : List (Expr × Expr)} {input rest : List Token} (hread : I read input)
        (hc : P c.1 ∧ P c.2) : I (c :: read) rest :=
      ⟨fun hnil => absurd hnil (List.cons_ne_nil _ _), List.forall_mem_cons.2 ⟨hc, hread.2⟩⟩
    obtain ⟨⟨hcalled, hread⟩, hend⟩ := holds_of_run_loop hstart (fun _ read _ hread _ =>
      ensures_bind fun _ => (ensures_clause h).map fun c _ hc => hcons hread hc) hloop
    refine ⟨fun hnil => ?_, fun c hc => hread c (List.mem_reverse.1 hc)⟩
    obtain ⟨hne, hsome⟩ := hcalled (List.reverse_eq_nil_iff.1 hnil)
    obtain hnil | hnone := hend
    · exact hne hnil
    · rw [hsome] at hnone
      cases hnone
  · have hfails : (malformedCase "expected WHEN" : Parser (List (Expr × Expr))).Ensures fun _ _ => False :=
      ensures_malformedCase _
    exact (hfails _ _ _ _ hrun).elim

theorem ensures_otherwise (h : Gives inner P) (start : Nat) : (inner.otherwise start).Ensures fun e _ => P e := by
  rw [otherwise]
  refine ensures_bind fun found => ?_
  split
  · exact h.expression _
  · refine ensures_bind fun ended => ?_
    split <;> exact ensures_malformedCase _

theorem ensures_caseOperand? (h : Gives inner P) : inner.caseOperand?.Ensures fun e? _ => ∀ e ∈ e?, P e := by
  rw [caseOperand?]
  refine ensures_bind fun found => ?_
  split
  · exact ensures_pure fun _ => nofun
  · refine ensures_bind fun otherwise => ensures_bind fun ended => ?_
    split
    · exact ensures_malformedCase _
    · refine (h.expression _).map fun e _ he e' he' => ?_
      rwa [← Option.some.inj he']

/-! ### Operands -/

section

variable (hpasses : Expr.Passes P Q)

include hpasses

theorem passes_literal {v : Value} (hv : v.HasLiteral) : Q (.literal v) :=
  hpasses.node hv (List.forall_mem_nil _)

theorem passes_field (path : String) : Q (.field path) :=
  hpasses.node trivial (List.forall_mem_nil _)

theorem passes_unary (op : UnaryOperator) {e : Expr} (he : P e) : Q (.unary op e) :=
  hpasses.node trivial (List.forall_mem_singleton.2 he)

theorem ensures_caseExpression (h : Gives inner P) (start : Nat) :
    (inner.caseExpression start).Ensures fun e _ => Q e := by
  rw [caseExpression]
  refine (ensures_caseOperand? h).bind fun operand? _ hoperand => ?_
  refine (ensures_clauses h).bind fun clauses _ ⟨hne, hclauses⟩ => ?_
  refine (ensures_otherwise h start).bind fun otherwise _ hotherwise => ensures_bind fun ended => ?_
  have hrest : ∀ p ∈ Expr.clauseParts clauses ++ [otherwise], P p :=
    List.forall_mem_append.2 ⟨Expr.forall_mem_clauseParts.2 hclauses, List.forall_mem_singleton.2 hotherwise⟩
  split
  · cases operand? with
    | none => exact ensures_pure fun _ => hpasses.node hne hrest
    | some operand => exact ensures_pure fun _ => hpasses.node hne (List.forall_mem_cons.2 ⟨hoperand operand rfl, hrest⟩)
  · exact ensures_malformedCase _

theorem ensures_castExpression (h : Gives inner P) (name : String) :
    (inner.castExpression name).Ensures fun e _ => Q e := by
  refine ensures_parenthesized ?_
  refine (h.expression _).bind fun operand _ hoperand => ensures_bind fun _ => ensures_bind fun target? => ?_
  split
  · exact ensures_pure fun _ => hpasses.node trivial (List.forall_mem_singleton.2 hoperand)
  · exact ensures_malformedArguments _ _

theorem ensures_wordOperand (h : Gives inner P) : inner.wordOperand.Ensures fun e _ => Q e := by
  rw [wordOperand]
  refine ensures_bind fun t => ensures_bind fun isCall => ?_
  split
  · exact ensures_pure fun _ => passes_literal hpasses trivial
  · exact ensures_pure fun _ => passes_literal hpasses trivial
  · exact ensures_pure fun _ => passes_literal hpasses trivial
  · exact ensures_caseExpression hpasses h _
  · exact ensures_castExpression hpasses h _
  · split
    · exact (ensures_callArguments h _ _).map fun args _ hargs => hpasses.node trivial hargs
    · split <;> exact ensures_fail _
    · split
      · exact ensures_fail _
      · exact ensures_bind fun path => ensures_pure fun _ => passes_field hpasses path

theorem ensures_primary (h : Gives inner P) : inner.primary.Ensures fun e _ => Q e := by
  rw [primary]
  refine ensures_bind fun next => ?_
  cases next with
  | none => exact ensures_endOfInput _
  | some t =>
    dsimp only
    split
    · exact ensures_bind fun _ => (ensures_numberValue t false).map fun v _ hv => passes_literal hpasses hv
    · exact ensures_bind fun _ => ensures_pure fun _ => passes_literal hpasses trivial
    · exact ensures_bind fun _ => (ensures_blobValue t).map fun v _ hv => passes_literal hpasses hv
    · exact ensures_bind fun _ => ensures_bind fun path => ensures_pure fun _ => passes_field hpasses path
    · split
      · exact (ensures_parenthesized (h.expression _)).mono fun e _ he => hpasses.enclosed he
      · exact ensures_fail _
    · exact ensures_wordOperand hpasses h

theorem ensures_signed (h : Gives inner P) (op : UnaryOperator) : (inner.signed op).Ensures fun e _ => Q e := by
  have hoperand : (inner.operand >>= fun e => pure (Expr.unary op e)).Ensures fun (e : Expr) _ => Q e :=
    h.operand.map fun _ _ he => passes_unary hpasses op he
  rw [signed]
  refine ensures_bind fun next => ?_
  cases next with
  | none => exact hoperand
  | some t =>
    dsimp only
    split
    · exact ensures_bind fun _ => (ensures_numberValue t true).map fun v _ hv => passes_literal hpasses hv
    · exact hoperand

theorem ensures_unary (h : Gives inner P) : inner.unary.Ensures fun e _ => Q e := by
  rw [unary]
  refine ensures_bind fun negated => ?_
  split
  · exact (h.expression _).map fun e _ he => passes_unary hpasses .not he
  · refine ensures_bind fun next => ?_
    split
    · exact ensures_bind fun _ => ensures_signed hpasses h _
    · exact ensures_primary hpasses h

end

/-! ### Continued operands -/

theorem ensures_continueWith (hpasses : Expr.Passes P P) (h : Gives inner P) {left : Expr} (hleft : P left)
    {c : Continuation} (hproper : ∀ op, c = .binary op true → op = .is ∨ op.isPattern = true) :
    (inner.continueWith left c).Ensures fun e _ => P e := by
  cases c with
  | binary op negate =>
    rw [continueWith]
    refine (h.expression _).map fun right _ hright => hpasses.node ?_ ?_
    · rintro rfl
      exact hproper op rfl
    · exact List.forall_mem_cons.2 ⟨hleft, List.forall_mem_singleton.2 hright⟩
  | between negate =>
    rw [continueWith]
    refine (h.expression _).bind fun low _ hlow => ensures_bind fun _ => (h.expression _).map fun high _ hhigh => ?_
    refine hpasses.node trivial (List.forall_mem_cons.2 ⟨hleft, ?_⟩)
    exact List.forall_mem_cons.2 ⟨hlow, List.forall_mem_singleton.2 hhigh⟩
  | among negate =>
    rw [continueWith]
    exact (ensures_candidates h).map fun es _ hes => hpasses.node trivial (List.forall_mem_cons.2 ⟨hleft, hes⟩)
  | nullTest negate =>
    have hnull : P (.literal .null) := passes_literal hpasses trivial
    rw [continueWith]
    exact ensures_pure fun _ =>
      hpasses.node (fun _ => .inl rfl) (List.forall_mem_cons.2 ⟨hleft, List.forall_mem_singleton.2 hnull⟩)
  | collate =>
    rw [continueWith]
    exact ensures_bind fun _ => ensures_pure fun _ => hpasses.node trivial (List.forall_mem_singleton.2 hleft)

theorem ensures_extend (hpasses : Expr.Passes P P) (h : Gives inner P) {left : Expr} (hleft : P left) (least : Nat) :
    (inner.extend least left).Ensures fun e _ => P e := by
  refine (ensures_loop (I := fun e _ => P e) (fun _ => hleft) ?_).mono fun _ _ he => he.1
  intro (c, isPair) left input hleft hnext
  have hproper (op : BinaryOperator) (hc : c = .binary op true) : op = .is ∨ op.isPattern = true := by
    obtain ⟨hsome, -⟩ := Option.filter_eq_some_iff.1 hnext
    exact hasOpposite_of_continuation? (hc ▸ hsome)
  -- the tokens of the operator are skipped, one or both
  have hcontinued := ensures_continueWith hpasses h hleft hproper
  refine ensures_bind fun _ => ?_
  split
  · exact ensures_bind fun _ => hcontinued
  · exact hcontinued

theorem gives_levels (hpasses : Expr.Passes P P) (n : Nat) : Gives (levels n) P := by
  -- on the levels: the readers of a level take their parts from the level below
  induction n with
  | zero => exact ⟨ensures_tooDeep, fun _ => ensures_tooDeep⟩
  | succ n ih =>
    refine ⟨ensures_unary hpasses ih, fun least => ?_⟩
    exact (ensures_unary hpasses ih).bind fun left _ hleft => ensures_extend hpasses ih hleft least

end Levels

/-- What passes from the parts of a node that the grammar makes to the node holds of every expression that is read. -/
theorem holdsOfRead_of_passes {P : Expr → Prop} (hpasses : Expr.Passes P P) : HoldsOfRead P where
  ofExpression := (gives_levels hpasses nestingLimit).expression Precedence.lowest
  ofLiteral _ hv := passes_literal hpasses hv

end Parser

end SqlFormula
