import SqlFormula.Parse
import SqlFormula.Proofs.Reader
import SqlFormula.Proofs.Syntax.Nodes

/-!
# The expressions in statements

All expressions in a statement are read as expressions, except for defaults, which can be literals of their own. So what
holds of all results of the reader of expressions, and of literals, holds of all expressions in statements.

## Main definitions

- `Statement.exprs` — the expressions in a statement

## Main statements

- `Parser.ensures_statements` — what holds of expressions and literals holds of every expression in a statement
-/

namespace SqlFormula

/-! ### The expressions in a statement -/

/-- The expression of a constraint. -/
def ColumnConstraint.exprs : ColumnConstraint → List Expr
  | .check condition => [condition]
  | _ => []

/-- The expression of a constraint. -/
def TableConstraint.exprs : TableConstraint → List Expr
  | .check condition => [condition]
  | _ => []

/-- The default and the conditions of a column. -/
def Column.exprs (c : Column) : List Expr :=
  c.default.toList ++ c.constraints.flatMap fun constraint => constraint.kind.exprs

/-- The expression of a result column. -/
def ResultColumn.exprs : ResultColumn → List Expr
  | .all => []
  | .expr e _ => [e]

/-- The expressions in a statement. -/
def Statement.exprs : Statement → List Expr
  | .createTable s =>
    s.columns.flatMap Column.exprs ++ s.constraints.flatMap fun constraint => constraint.kind.exprs
  | .dropTable _ => []
  | .insert s => s.rows.flatten
  | .update s => s.assignments.map Prod.snd ++ s.condition.toList
  | .delete s => s.condition.toList
  | .select s =>
    s.columns.flatMap ResultColumn.exprs ++ s.condition.toList ++ s.ordering.map OrderingTerm.key ++ s.limit.toList ++
      s.offset.toList

namespace Parser

open Reader

/-! ### What the grammars share -/

section

variable {α : Type} {p : Parser α} {P : α → Prop} {Q : α → List Token → Prop}

theorem ensures_endOfInput (expected : String) : (endOfInput expected).Ensures Q :=
  ensures_bind fun _ => ensures_fail _

theorem ensures_errorAtFront (expected : String) : (errorAtFront expected).Ensures Q := by
  rw [errorAtFront]
  refine ensures_bind fun next => ?_
  cases next with
  | none => exact ensures_endOfInput _
  | some t => exact ensures_fail _

theorem ensures_parenthesized (hp : p.Ensures fun a _ => P a) : (parenthesized p).Ensures fun a _ => P a :=
  ensures_bind fun _ => hp.bind fun _ _ ha => ensures_bind fun _ => ensures_pure fun _ => ha

/-- What the results of a reader satisfy holds of what it makes of a whole text. -/
theorem of_runOn_eq_ok (hp : p.Ensures fun a _ => P a) {text : String} {a : α} (h : p.runOn text = .ok a) : P a := by
  rw [Parser.runOn] at h
  split at h
  · next ts _ => exact hp _ ts a (p.run text.utf8ByteSize ts).2 (Prod.ext h rfl)
  · cases h

end

/-- What holds of every result of the reader of expressions, and of literals. -/
structure HoldsOfRead (P : Expr → Prop) : Prop where
  ofExpression : expression.Ensures fun e _ => P e
  ofLiteral : ∀ v : Value, v.HasLiteral → P (.literal v)

variable {P : Expr → Prop}

/-! ### Literals -/

theorem hasLiteral_numberValue {t : Token} {negative : Bool} {v : Value} (h : numberValue t negative = .ok v) :
    v.HasLiteral := by
  rw [numberValue] at h
  split at h
  · cases h
    trivial
  · split at h <;> cases h
    trivial

theorem hasLiteral_blobValue {t : Token} {v : Value} (h : blobValue t = .ok v) : v.HasLiteral := by
  rw [blobValue] at h
  split at h <;> cases h
  trivial

theorem ensures_numberValue (t : Token) (negative : Bool) :
    (ofExcept (numberValue t negative) : Parser Value).Ensures fun v _ => v.HasLiteral :=
  ensures_ofExcept fun _ hv _ => hasLiteral_numberValue hv

theorem ensures_blobValue (t : Token) : (ofExcept (blobValue t) : Parser Value).Ensures fun v _ => v.HasLiteral :=
  ensures_ofExcept fun _ hv _ => hasLiteral_blobValue hv

/-! ### Defaults -/

/-- A token that is a literal of its own: a number, a text, a blob, or one of the words for values. -/
def IsLiteralToken (t : Token) : Prop :=
  t.kind = .number ∨ t.kind = .string ∨ t.kind = .blob ∨
    t.kind = .word ∧ ∃ k, t.keyword? = some k ∧ isLiteralWord k = true

theorem primary_isLiteral {inner : Levels} {stop : Nat} {t : Token} {ts rest : List Token} {e : Expr}
    (ht : IsLiteralToken t) (hrun : inner.primary.run stop (t :: ts) = (.ok e, rest)) :
    ∃ v : Value, v.HasLiteral ∧ e = .literal v := by
  have hvalue {p : Parser Value} (hp : p.Ensures fun v _ => v.HasLiteral) :
      (skip 1 >>= fun _ => p >>= fun v => pure (Expr.literal v) : Parser Expr).Ensures
        fun e _ => ∃ v : Value, v.HasLiteral ∧ e = .literal v :=
    ensures_bind fun _ => hp.map fun v _ hv => ⟨v, hv, rfl⟩
  rw [Levels.primary, run_peek?_bind, List.head?_cons] at hrun
  rcases ht with hkind | hkind | hkind | ⟨hkind, k, hk, hword⟩
  · simp only [hkind] at hrun
    exact hvalue (ensures_numberValue t false) _ _ _ _ hrun
  · simp only [hkind] at hrun
    cases hrun
    exact ⟨.text t.text, trivial, rfl⟩
  · simp only [hkind] at hrun
    exact hvalue (ensures_blobValue t) _ _ _ _ hrun
  · have hnext : (nextToken "expression").run stop (t :: ts) = (.ok t, ts) := rfl
    have hcall : (nextIsSymbol "(").run stop ts = (.ok (ts.head?.any (Token.isSymbol · "(")), ts) := rfl
    simp only [hkind] at hrun
    rw [Levels.wordOperand, run_bind_ok hnext, run_bind_ok hcall, hk] at hrun
    simp only [isLiteralWord, Bool.or_eq_true, beq_iff_eq] at hword
    rcases hword with (rfl | rfl) | rfl <;> cases hrun <;> exact ⟨_, by trivial, rfl⟩

theorem ensures_signedDefault (h : HoldsOfRead P) (negative : Bool) : (signedDefault negative).Ensures fun e _ => P e := by
  rw [signedDefault]
  refine ensures_bind fun t => ?_
  split
  · exact (ensures_numberValue t negative).map fun v _ hv => h.ofLiteral v hv
  · exact ensures_fail _

theorem ensures_defaultValue (h : HoldsOfRead P) : defaultValue.Ensures fun e _ => P e := by
  intro stop input e rest hrun
  rw [defaultValue, run_peek?_bind] at hrun
  cases input with
  | nil => cases hrun
  | cons t ts =>
    -- tokens that are literals of their own are read as in expressions
    have hprimary (ht : IsLiteralToken t) (hrun : (levels nestingLimit).primary.run stop (t :: ts) = (.ok e, rest)) :
        P e := by
      obtain ⟨v, hv, rfl⟩ := primary_isLiteral ht hrun
      exact h.ofLiteral v hv
    rw [List.head?_cons] at hrun
    cases hkind : t.kind with
    | symbol =>
      simp only [hkind] at hrun
      split at hrun
      · exact ensures_parenthesized h.ofExpression _ _ _ _ hrun
      · split at hrun
        · exact (ensures_bind fun _ => ensures_signedDefault h _) _ _ _ _ hrun
        · cases hrun
    | number =>
      simp only [hkind] at hrun
      exact hprimary (.inl hkind) hrun
    | string =>
      simp only [hkind] at hrun
      exact hprimary (.inr (.inl hkind)) hrun
    | blob =>
      simp only [hkind] at hrun
      exact hprimary (.inr (.inr (.inl hkind))) hrun
    | word =>
      simp only [hkind] at hrun
      split at hrun
      · next k hk =>
        split at hrun
        · next hword => exact hprimary (.inr (.inr (.inr ⟨hkind, k, hk, hword⟩))) hrun
        · cases hrun
      · cases hrun
        exact h.ofLiteral _ trivial
    | quotedIdentifier =>
      simp only [hkind] at hrun
      cases hrun

/-! ### Tables -/

theorem exprs_addConstraint (column : Column) (name : Option String) (kind : ColumnConstraint) :
    (addConstraint column name kind).exprs = column.exprs ++ kind.exprs := by
  simp [Column.exprs, addConstraint, List.append_assoc]

theorem ensures_columnClause (h : HoldsOfRead P) (word : Keyword) (name : Option String) {column : Column}
    (hcolumn : ∀ e ∈ column.exprs, P e) : (columnClause word name column).Ensures fun c _ => ∀ e ∈ c.exprs, P e := by
  have hadd (kind : ColumnConstraint) (hkind : ∀ e ∈ kind.exprs, P e) :
      ∀ e ∈ (addConstraint column name kind).exprs, P e := by
    rw [exprs_addConstraint]
    exact List.forall_mem_append.2 ⟨hcolumn, hkind⟩
  unfold columnClause
  split
  · exact ensures_bind fun _ => ensures_bind fun _ => ensures_bind fun _ => ensures_pure fun _ => hadd _ nofun
  · exact ensures_bind fun _ => ensures_pure fun _ => hcolumn
  · exact ensures_pure fun _ => hcolumn
  · have hconstraints := (List.forall_mem_append.1 hcolumn).2
    exact (ensures_defaultValue h).map fun e _ he => List.forall_mem_cons.2 ⟨he, hconstraints⟩
  · exact ensures_pure fun _ => hadd _ nofun
  · exact (ensures_parenthesized h.ofExpression).map fun e _ he => hadd _ (List.forall_mem_singleton.2 he)
  · exact ensures_bind fun _ => ensures_pure fun _ => hadd _ nofun
  · exact ensures_bind fun _ => ensures_pure fun _ => hadd _ nofun
  · exact ensures_errorAtFront _

theorem ensures_namedColumnClause (h : HoldsOfRead P) (word : Keyword) {column : Column}
    (hcolumn : ∀ e ∈ column.exprs, P e) : (namedColumnClause word column).Ensures fun c _ => ∀ e ∈ c.exprs, P e := by
  rw [namedColumnClause]
  split
  · refine ensures_bind fun name => ensures_bind fun next => ?_
    split
    · exact ensures_bind fun _ => ensures_columnClause h _ _ hcolumn
    · exact ensures_errorAtFront _
  · exact ensures_columnClause h _ _ hcolumn

theorem ensures_column (h : HoldsOfRead P) : column.Ensures fun c _ => ∀ e ∈ c.exprs, P e := by
  rw [column]
  refine ensures_bind fun name => ensures_bind fun type => ?_
  refine (ensures_loop (I := fun c _ => ∀ e ∈ c.exprs, P e) (fun _ => by simp [Column.exprs]) ?_).mono fun c _ hc => hc.1
  intro word c _ hc _
  exact ensures_bind fun _ => ensures_namedColumnClause h word hc

theorem ensures_tableConstraintKind (h : HoldsOfRead P) :
    tableConstraintKind.Ensures fun c _ => ∀ e ∈ c.exprs, P e := by
  rw [tableConstraintKind]
  refine ensures_bind fun t => ?_
  split
  · exact ensures_bind fun _ => ensures_bind fun _ => ensures_pure fun _ => nofun
  · exact ensures_bind fun _ => ensures_pure fun _ => nofun
  · exact (ensures_parenthesized h.ofExpression).map fun e _ he => List.forall_mem_singleton.2 he
  · exact ensures_bind fun _ => ensures_bind fun _ => ensures_bind fun _ => ensures_bind fun _ =>
      ensures_pure fun _ => nofun
  · exact ensures_fail _

theorem ensures_tableConstraint (h : HoldsOfRead P) :
    tableConstraint.Ensures fun c _ => ∀ e ∈ c.kind.exprs, P e := by
  rw [tableConstraint]
  refine ensures_bind fun named => ?_
  split
  · exact ensures_bind fun name => (ensures_tableConstraintKind h).map fun _ _ hc => hc
  · exact (ensures_tableConstraintKind h).map fun _ _ hc => hc

/-- The expressions of the parts that were read so far. -/
def TableParts.exprs (parts : TableParts) : List Expr :=
  parts.columns.flatMap Column.exprs ++ parts.constraints.flatMap fun constraint => constraint.kind.exprs

theorem ensures_tablePart (h : HoldsOfRead P) {parts : TableParts} (hparts : ∀ e ∈ parts.exprs, P e) :
    (tablePart parts).Ensures fun ps _ => ∀ e ∈ ps.exprs, P e := by
  obtain ⟨hcolumns, hconstraints⟩ := List.forall_mem_append.1 hparts
  rw [tablePart]
  refine ensures_bind fun next => ?_
  split
  · refine (ensures_tableConstraint h).map fun c _ hc => List.forall_mem_append.2 ⟨hcolumns, ?_⟩
    rw [List.flatMap_append, List.flatMap_singleton]
    exact List.forall_mem_append.2 ⟨hconstraints, hc⟩
  · split
    · refine (ensures_column h).map fun c _ hc => List.forall_mem_append.2 ⟨?_, hconstraints⟩
      rw [List.flatMap_append, List.flatMap_singleton]
      exact List.forall_mem_append.2 ⟨hcolumns, hc⟩
    · exact ensures_errorAtFront _

theorem ensures_tableParts (h : HoldsOfRead P) : tableParts.Ensures fun ps _ => ∀ e ∈ ps.exprs, P e := by
  rw [tableParts]
  refine (ensures_tablePart h (by simp [TableParts.exprs])).bind fun parts _ hparts => ?_
  refine (ensures_loop (I := fun ps _ => ∀ e ∈ ps.exprs, P e) (fun _ => hparts) ?_).mono fun ps _ hps => hps.1
  intro _ ps _ hps _
  exact ensures_bind fun _ => ensures_tablePart h hps

theorem ensures_createTable (h : HoldsOfRead P) :
    createTable.Ensures fun s _ => ∀ e ∈ (Statement.createTable s).exprs, P e := by
  rw [createTable]
  refine ensures_bind fun _ => ensures_bind fun _ => ensures_bind fun _ => ensures_bind fun _ => ?_
  refine (ensures_tableParts h).bind fun parts _ hparts => ensures_bind fun _ => ?_
  split
  · exact ensures_fail _
  · exact ensures_pure fun _ => hparts

/-! ### Rows -/

theorem ensures_row (h : HoldsOfRead P) (columns : List String) : (row columns).Ensures fun es _ => ∀ e ∈ es, P e := by
  rw [row]
  refine ensures_bind fun _ => h.ofExpression.sepBy1.bind fun values _ hvalues => ensures_bind fun _ => ?_
  split
  · exact ensures_pure fun _ => hvalues
  · exact ensures_fail _

/-- `INSERT` is made of the rows that it reads, with the named columns or without any. -/
theorem ensures_insertInto_of_rows {onConflict : Option ConflictResolution} {Q : Insert → Prop}
    (h : ∀ columns, (commaList (row columns)).Ensures fun rows _ =>
      ∀ table, Q { table, columns, rows, onConflict }) : (insertInto onConflict).Ensures fun s _ => Q s := by
  rw [insertInto]
  refine ensures_bind fun _ => ensures_bind fun table => ensures_bind fun opening => ?_
  have hvalues (columns : List String) : (do
      expectKeyword .VALUES
      return { table, columns, rows := ← commaList (row columns), onConflict } : Parser Insert).Ensures
        fun s _ => Q s :=
    ensures_bind fun _ => (h columns).map fun rows _ hrows => hrows table
  split
  · exact ensures_bind hvalues
  · exact ensures_bind hvalues

theorem ensures_insertInto (h : HoldsOfRead P) (onConflict : Option ConflictResolution) :
    (insertInto onConflict).Ensures fun s _ => ∀ e ∈ (Statement.insert s).exprs, P e := by
  refine ensures_insertInto_of_rows fun columns => (ensures_row h columns).sepBy1.mono fun rows _ hrows table => ?_
  simpa [Statement.exprs] using fun e values hvalues he => hrows values hvalues e he

theorem ensures_insert (h : HoldsOfRead P) :
    insert.Ensures fun s _ => ∀ e ∈ (Statement.insert s).exprs, P e := by
  rw [insert]
  refine ensures_bind fun found => ?_
  split
  · exact ensures_bind fun _ => ensures_insertInto h _
  · exact ensures_insertInto h _

theorem ensures_whereClause (h : HoldsOfRead P) : whereClause.Ensures fun e? _ => ∀ e ∈ e?.toList, P e := by
  rw [whereClause]
  refine ensures_bind fun found => ?_
  split
  · exact h.ofExpression.map fun e _ he => List.forall_mem_singleton.2 he
  · exact ensures_pure fun _ => nofun

theorem ensures_assignment (h : HoldsOfRead P) : assignment.Ensures fun a _ => P a.2 :=
  ensures_bind fun _ => ensures_bind fun _ => h.ofExpression.map fun _ _ he => he

theorem ensures_update (h : HoldsOfRead P) : update.Ensures fun s _ => ∀ e ∈ (Statement.update s).exprs, P e := by
  rw [update]
  refine ensures_bind fun table => ensures_bind fun _ => ?_
  refine (ensures_assignment h).sepBy1.bind fun assignments _ hassignments => ?_
  refine (ensures_whereClause h).map fun condition _ hcondition => List.forall_mem_append.2 ⟨?_, hcondition⟩
  exact List.forall_mem_map.2 hassignments

theorem ensures_delete (h : HoldsOfRead P) : delete.Ensures fun s _ => ∀ e ∈ (Statement.delete s).exprs, P e := by
  rw [delete]
  exact ensures_bind fun _ => ensures_bind fun table => (ensures_whereClause h).map fun _ _ hcondition => hcondition

/-! ### Queries -/

theorem ensures_resultColumn (h : HoldsOfRead P) : resultColumn.Ensures fun c _ => ∀ e ∈ c.exprs, P e := by
  rw [resultColumn]
  refine ensures_bind fun star => ?_
  split
  · exact ensures_pure fun _ => nofun
  · exact h.ofExpression.bind fun e _ he => ensures_bind fun _ => ensures_pure fun _ => List.forall_mem_singleton.2 he

theorem ensures_orderClause (h : HoldsOfRead P) : orderClause.Ensures fun ts _ => ∀ t ∈ ts, P t.key := by
  have hterm : orderingTerm.Ensures fun t _ => P t.key :=
    h.ofExpression.bind fun e _ he => ensures_bind fun _ => ensures_pure fun _ => he
  rw [orderClause]
  refine ensures_bind fun found => ?_
  split
  · exact ensures_bind fun _ => hterm.sepBy1
  · exact ensures_pure fun _ => List.forall_mem_nil _

theorem ensures_limitClause (h : HoldsOfRead P) :
    limitClause.Ensures fun l _ => (∀ e ∈ l.1.toList, P e) ∧ ∀ e ∈ l.2.toList, P e := by
  have hsome {e : Expr} (he : P e) : ∀ e' ∈ (some e).toList, P e' := List.forall_mem_singleton.2 he
  rw [limitClause]
  refine ensures_bind fun found => ?_
  split
  · refine h.ofExpression.bind fun first _ hfirst => ensures_bind fun found => ?_
    split
    · exact h.ofExpression.map fun second _ hsecond => ⟨hsome hfirst, hsome hsecond⟩
    · refine ensures_bind fun comma => ?_
      split
      · exact h.ofExpression.map fun second _ hsecond => ⟨hsome hsecond, hsome hfirst⟩
      · exact ensures_pure fun _ => ⟨hsome hfirst, nofun⟩
  · exact ensures_pure fun _ => ⟨nofun, nofun⟩

theorem ensures_select (h : HoldsOfRead P) : select.Ensures fun s _ => ∀ e ∈ (Statement.select s).exprs, P e := by
  rw [select]
  refine ensures_bind fun distinct => (ensures_resultColumn h).sepBy1.bind fun columns _ hcolumns => ?_
  refine ensures_bind fun table => (ensures_whereClause h).bind fun condition _ hcondition => ?_
  refine (ensures_orderClause h).bind fun ordering _ hordering => (ensures_limitClause h).bind fun limits _ hlimits => ?_
  refine ensures_pure fun _ => ?_
  simp only [Statement.exprs, List.forall_mem_append]
  refine ⟨⟨⟨⟨?_, hcondition⟩, List.forall_mem_map.2 hordering⟩, hlimits.1⟩, hlimits.2⟩
  intro e he
  obtain ⟨c, hc, he⟩ := List.mem_flatMap.1 he
  exact hcolumns c hc e he

/-! ### Statements -/

section

variable {S : Statement → Prop}

/-- What holds of the results of the readers for each first word holds of every statement. -/
theorem ensures_statementFrom (h : ∀ k body, statementBody? k = some body → body.Ensures fun s _ => S s) (t : Token) :
    (statementFrom t).Ensures fun s _ => S s := by
  rw [statementFrom]
  split
  · next body hbody? =>
    obtain ⟨k, -, hk⟩ := Option.bind_eq_some_iff.1 hbody?
    exact ensures_bind fun _ => h k body hk
  · split <;> exact ensures_fail _

/-- What holds of every statement holds of those of a sequence. -/
theorem ensures_sequence (h : ∀ t, (statementFrom t).Ensures fun s _ => S s) :
    statements.Ensures fun ss _ => ∀ s ∈ ss, S s := by
  have hstep (t : Token) {read : List Statement} (hread : ∀ s ∈ read, S s) :
      (sequenceStep t read).Ensures fun ss _ => ∀ s ∈ ss, S s := by
    rw [sequenceStep]
    split
    · exact ensures_bind fun _ => ensures_pure fun _ => hread
    · have hitem : (sequenceItem read.length t).Ensures fun s _ => S s :=
        Ensures.mapError ((h t).bind fun s _ hs => ensures_bind fun _ => ensures_pure fun _ => hs) _
      exact hitem.map fun s _ hs => List.forall_mem_cons.2 ⟨hs, hread⟩
  rw [statements]
  refine Ensures.map (ensures_loop (I := fun ss _ => ∀ s ∈ ss, S s) (fun _ => List.forall_mem_nil _) ?_)
    fun read _ hread s hs => hread.1 s (List.mem_reverse.1 hs)
  intro t read _ hread _
  exact hstep t hread

end

/-- What holds of expressions and literals holds of every expression in a statement. -/
theorem ensures_statements (h : HoldsOfRead P) : statements.Ensures fun ss _ => ∀ s ∈ ss, ∀ e ∈ s.exprs, P e := by
  refine ensures_sequence (ensures_statementFrom fun k body hk => ?_)
  unfold statementBody? at hk
  split at hk <;> cases hk
  · exact (ensures_createTable h).map fun _ _ hs => hs
  · exact ensures_bind fun _ => ensures_pure fun _ => nofun
  · exact (ensures_insert h).map fun _ _ hs => hs
  · exact (ensures_insertInto h _).map fun _ _ hs => hs
  · exact (ensures_update h).map fun _ _ hs => hs
  · exact (ensures_delete h).map fun _ _ hs => hs
  · exact (ensures_select h).map fun _ _ hs => hs

theorem ensures_formula (h : HoldsOfRead P) : formula.Ensures fun e _ => P e := by
  rw [formula]
  refine h.ofExpression.bind fun e _ he => ensures_bind fun _ => ensures_bind fun next => ?_
  cases next with
  | none => exact ensures_pure fun _ => he
  | some t => exact ensures_fail _

end Parser

end SqlFormula
