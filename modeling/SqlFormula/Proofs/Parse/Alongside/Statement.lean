import SqlFormula.Parse.Statement
import SqlFormula.Proofs.Parse.Alongside.Expression

/-!
# The same statement in two texts

Statements are read alongside themselves, clause by clause: at a semicolon a clause that may be left out is left out, and
one that has to be there is missing, as at the end of the text.

## Main statements

- `Parser.Relocation.at_statementFrom`
-/

namespace SqlFormula.Parser.Relocation

open Reader

variable {r : Relocation}

/-! ### Tables -/

theorem alongside_descending : r.Alongside descending descending := by
  rw [descending]
  refine (alongside_eatKeyword .DESC).bind fun _ => alongside_ite (fun _ => alongside_pure _) fun _ => ?_
  exact (alongside_eatKeyword .ASC).map fun _ => false

theorem alongside_signedDefault (negative : Bool) : r.Alongside (signedDefault negative) (signedDefault negative) := by
  rw [signedDefault]
  refine alongside_nextToken_bind (fun t => alongside_ite (fun _ => ?_) fun _ => ?_) fun t ts ht => ?_
  · exact (alongside_numberValue t negative).map _
  · exact fun _ => at_fail (sameError_unexpected t _)
  · simp only [ht.kind_eq]
    exact rejects_fail _

theorem alongside_defaultValue : r.Alongside defaultValue defaultValue := by
  have hprimary := (Levels.steady_levels r nestingLimit).primary
  have hunexpected (t : Token) (ts : List Token) : r.At ts (fail (unexpected t "default value") : Parser Expr)
      (fail (unexpected (t.shift r.distance) "default value")) :=
    at_fail (sameError_unexpected t _)
  rw [defaultValue]
  refine alongside_peek?_bind (fun t ts => ?_) (fun htail => at_endOfInput htail _) fun t htail _ ht => ?_
  · have hsign : Levels.signOperator? (t.shift r.distance) = Levels.signOperator? t := rfl
    simp only [Token.kind_shift, Token.text_shift, Token.isSymbol_shift, Token.keyword?_shift, hsign]
    cases t.kind with
    | symbol =>
      refine at_ite (fun _ => r.alongside_expression.parenthesized (t :: ts)) fun _ => ?_
      cases Levels.signOperator? t with
      | some op => exact at_skip_bind (alongside_signedDefault _ ts)
      | none => exact hunexpected t _
    | number => exact hprimary (t :: ts)
    | string => exact hprimary (t :: ts)
    | blob => exact hprimary (t :: ts)
    | word =>
      cases t.keyword? with
      | some k => exact at_ite (fun _ => hprimary (t :: ts)) fun _ => hunexpected t _
      | none => exact at_skip_bind (at_pure _)
    | quotedIdentifier => exact hunexpected t _
  · -- the first text ends, and no default value begins with a boundary
    refine at_of_rejects htail (rejects_endOfInput _) fun _ => ?_
    have hsign : Levels.signOperator? t = none := by simp [Levels.signOperator?, ht.isSymbol_eq]
    have hopening : t.isSymbol "(" = false := ht.isSymbol_eq (by decide) (by decide)
    simp only [ht.kind_eq, hsign, hopening]
    exact rejects_fail _

theorem alongside_foreignKeyTarget : r.Alongside foreignKeyTarget foreignKeyTarget := by
  rw [foreignKeyTarget]
  refine (alongside_qualifiedName _).bind fun table => (alongside_nextIsSymbol "(" (by decide)).bind fun _ => ?_
  exact alongside_ite (fun _ => (alongside_identifierList _).map _) fun _ => alongside_pure _

theorem alongside_columnClause (word : Keyword) (name : Option String) (column : Column) :
    r.Alongside (columnClause word name column) (columnClause word name column) := by
  unfold columnClause
  split
  · refine (alongside_expectKeyword .KEY).bind fun _ => alongside_descending.bind fun descending => ?_
    exact (alongside_eatKeyword .AUTOINCREMENT).map _
  · exact (alongside_expectKeyword .NULL).map _
  · exact alongside_pure _
  · exact alongside_defaultValue.map _
  · exact alongside_pure _
  · exact r.alongside_expression.parenthesized.map _
  · exact alongside_collationName.map _
  · exact alongside_foreignKeyTarget.map _
  · exact alongside_errorAtFront _

theorem alongside_namedColumnClause (word : Keyword) (column : Column) :
    r.Alongside (namedColumnClause word column) (namedColumnClause word column) := by
  rw [namedColumnClause]
  refine alongside_ite (fun _ => ?_) fun _ => alongside_columnClause word none column
  refine (alongside_expectIdentifier _).bind fun name => alongside_peekKeyword?_bind (fun t ts => ?_) ?_
  · cases t.keyword?.filter isColumnClause with
    | some word => exact at_skip_bind (alongside_columnClause word (some name) column ts)
    | none => exact alongside_errorAtFront _ (t :: ts)
  · exact alongside_errorAtFront _ []

theorem columnWord?_far (ts : List Token) : columnWord? (r.far ts) = (columnWord? ts).map id := by
  have hword : (r.far ts).head?.bind Token.keyword? = ts.head?.bind Token.keyword? :=
    head?_far_bind (fun _ => rfl) (fun _ ht => ht.keyword?_eq) ts
  rw [columnWord?, hword, Option.map_id]
  rfl

theorem alongside_column : r.Alongside column column := by
  rw [column]
  refine (alongside_expectIdentifier _).bind fun name => alongside_typeName?.bind fun type => ?_
  refine alongside_loop rfl columnWord?_far (fun word column ts hne _ => ?_) _
  obtain ⟨t, ts, rfl⟩ := List.exists_cons_of_ne_nil hne
  exact at_skip_bind (alongside_namedColumnClause word column ts)

theorem alongside_tableConstraintKind : r.Alongside tableConstraintKind tableConstraintKind := by
  rw [tableConstraintKind]
  refine alongside_nextToken_bind (fun t => ?_) fun t ts ht => ?_
  · simp only [Token.keyword?_shift]
    split
    · exact (alongside_expectKeyword .KEY).bind fun _ => (alongside_identifierList _).map _
    · exact (alongside_identifierList _).map _
    · exact r.alongside_expression.parenthesized.map _
    · refine (alongside_expectKeyword .KEY).bind fun _ => (alongside_identifierList _).bind fun columns => ?_
      exact (alongside_expectKeyword .REFERENCES).bind fun _ => alongside_foreignKeyTarget.map _
    · exact fun _ => at_fail (sameError_unexpected t _)
  · simp only [ht.keyword?_eq]
    exact rejects_fail _

theorem alongside_tableConstraint : r.Alongside tableConstraint tableConstraint := by
  rw [tableConstraint]
  refine (alongside_eatKeyword .CONSTRAINT).bind fun _ => alongside_ite (fun _ => ?_) fun _ => ?_
  · exact (alongside_expectIdentifier _).bind fun name => alongside_tableConstraintKind.map _
  · exact alongside_tableConstraintKind.map _

theorem alongside_tablePart (parts : TableParts) : r.Alongside (tablePart parts) (tablePart parts) := by
  rw [tablePart]
  refine alongside_peekKeyword?.bind fun _ => alongside_ite (fun _ => alongside_tableConstraint.map _) fun _ => ?_
  exact alongside_ite (fun _ => alongside_column.map _) fun _ => alongside_errorAtFront _

theorem alongside_tableParts : r.Alongside tableParts tableParts := by
  rw [tableParts]
  refine (alongside_tablePart _).bind fun parts => ?_
  refine alongside_loop rfl head?_filter_isComma_far (fun _ parts ts hne _ => ?_) parts
  obtain ⟨t, ts, rfl⟩ := List.exists_cons_of_ne_nil hne
  exact at_skip_bind (alongside_tablePart parts ts)

theorem alongside_ifNotExists : r.Alongside ifNotExists ifNotExists := by
  rw [ifNotExists]
  refine (alongside_eatKeyword .IF).bind fun _ => alongside_ite (fun _ => ?_) fun _ => alongside_pure _
  exact (alongside_expectKeyword .NOT).bind fun _ => (alongside_expectKeyword .EXISTS).map _

theorem alongside_createTable : r.Alongside createTable createTable := by
  rw [createTable]
  refine (alongside_expectKeyword .TABLE).bind fun _ => alongside_ifNotExists.bind fun ifNotExists => ?_
  refine (alongside_qualifiedName _).bind fun name => ?_
  refine alongside_expectSymbol_bind "(" (by decide) fun opening opening' hopening => ?_
  refine alongside_tableParts.bind fun parts => (alongside_expectClosing opening opening').bind fun _ => ?_
  exact alongside_ite (fun _ _ => at_fail fun hnil => ⟨rfl, hopening hnil⟩) fun _ => alongside_pure _

theorem alongside_ifExists : r.Alongside ifExists ifExists := by
  rw [ifExists]
  refine (alongside_eatKeyword .IF).bind fun _ => alongside_ite (fun _ => ?_) fun _ => alongside_pure _
  exact (alongside_expectKeyword .EXISTS).map _

theorem alongside_dropTable : r.Alongside dropTable dropTable := by
  rw [dropTable]
  refine (alongside_expectKeyword .TABLE).bind fun _ => alongside_ifExists.bind fun ifExists => ?_
  exact (alongside_qualifiedName _).map _

/-! ### Rows -/

theorem alongside_conflictResolution : r.Alongside conflictResolution conflictResolution := by
  rw [conflictResolution]
  refine alongside_nextToken_bind (fun t => ?_) fun t ts ht => ?_
  · simp only [Token.keyword?_shift]
    split
    · exact alongside_pure _
    · exact alongside_pure _
    · exact alongside_pure _
    · exact alongside_pure _
    · exact alongside_pure _
    · exact fun _ => at_fail (sameError_unexpected t _)
  · simp only [ht.keyword?_eq]
    exact rejects_fail _

theorem alongside_row (columns : List String) : r.Alongside (row columns) (row columns) := by
  rw [row]
  refine alongside_expectSymbol_bind "(" (by decide) fun opening opening' hopening => ?_
  refine r.alongside_expression.commaList.bind fun values => (alongside_expectClosing opening opening').bind fun _ => ?_
  exact alongside_ite (fun _ => alongside_pure _) fun _ _ => at_fail fun hnil => ⟨rfl, hopening hnil⟩

theorem alongside_insertInto (onConflict : Option ConflictResolution) :
    r.Alongside (insertInto onConflict) (insertInto onConflict) := by
  rw [insertInto]
  refine (alongside_expectKeyword .INTO).bind fun _ => (alongside_qualifiedName _).bind fun table => ?_
  refine (alongside_nextIsSymbol "(" (by decide)).bind fun named => alongside_ite (fun _ => ?_) fun _ => ?_
  · refine (alongside_identifierList _).bind fun columns => (alongside_expectKeyword .VALUES).bind fun _ => ?_
    exact (alongside_row columns).commaList.map _
  · refine (alongside_pure []).bind fun columns => (alongside_expectKeyword .VALUES).bind fun _ => ?_
    exact (alongside_row columns).commaList.map _

theorem alongside_insert : r.Alongside insert insert := by
  rw [insert]
  refine (alongside_eatKeyword .OR).bind fun _ => alongside_ite (fun _ => ?_) fun _ => alongside_insertInto none
  exact alongside_conflictResolution.bind fun resolution => alongside_insertInto (some resolution)

theorem alongside_whereClause : r.Alongside whereClause whereClause := by
  rw [whereClause]
  refine (alongside_eatKeyword .WHERE).bind fun _ => alongside_ite (fun _ => ?_) fun _ => alongside_pure _
  exact r.alongside_expression.map _

theorem alongside_assignment : r.Alongside assignment assignment := by
  rw [assignment]
  refine (alongside_expectIdentifier _).bind fun column => alongside_expectSymbol_bind "=" (by decide) fun _ _ _ => ?_
  exact r.alongside_expression.map _

theorem alongside_update : r.Alongside update update := by
  rw [update]
  refine (alongside_qualifiedName _).bind fun table => (alongside_expectKeyword .SET).bind fun _ => ?_
  exact alongside_assignment.commaList.bind fun assignments => alongside_whereClause.map _

theorem alongside_delete : r.Alongside delete delete := by
  rw [delete]
  refine (alongside_expectKeyword .FROM).bind fun _ => (alongside_qualifiedName _).bind fun table => ?_
  exact alongside_whereClause.map _

/-! ### Queries -/

theorem alongside_columnAlias : r.Alongside columnAlias columnAlias := by
  rw [columnAlias]
  refine (alongside_eatKeyword .AS).bind fun _ => alongside_ite (fun _ => (alongside_expectIdentifier _).map _) fun _ => ?_
  refine alongside_peek?_bind (fun t ts => ?_) (fun _ => at_pure none) fun t _ _ ht => ?_
  · exact at_ite (fun _ => at_skip_bind (at_pure _)) fun _ => at_pure none
  · simp only [ht.isIdentifier_eq]
    exact at_pure none

theorem alongside_resultColumn : r.Alongside resultColumn resultColumn := by
  rw [resultColumn]
  refine (alongside_eatSymbol "*" (by decide)).bind fun _ => alongside_ite (fun _ => alongside_pure _) fun _ => ?_
  exact r.alongside_expression.bind fun e => alongside_columnAlias.map _

theorem alongside_distinct : r.Alongside distinct distinct := by
  rw [distinct]
  refine (alongside_eatKeyword .DISTINCT).bind fun _ => alongside_ite (fun _ => alongside_pure _) fun _ => ?_
  exact (alongside_eatKeyword .ALL).map _

theorem alongside_fromClause : r.Alongside fromClause fromClause := by
  rw [fromClause]
  refine (alongside_eatKeyword .FROM).bind fun _ => alongside_ite (fun _ => ?_) fun _ => alongside_pure _
  exact (alongside_qualifiedName _).map _

theorem alongside_orderingTerm : r.Alongside orderingTerm orderingTerm :=
  r.alongside_expression.bind fun _ => alongside_descending.map _

theorem alongside_orderClause : r.Alongside orderClause orderClause := by
  rw [orderClause]
  refine (alongside_eatKeyword .ORDER).bind fun _ => alongside_ite (fun _ => ?_) fun _ => alongside_pure _
  exact (alongside_expectKeyword .BY).bind fun _ => alongside_orderingTerm.commaList

theorem alongside_limitClause : r.Alongside limitClause limitClause := by
  rw [limitClause]
  refine (alongside_eatKeyword .LIMIT).bind fun _ => alongside_ite (fun _ => ?_) fun _ => alongside_pure _
  refine r.alongside_expression.bind fun first => (alongside_eatKeyword .OFFSET).bind fun _ => ?_
  refine alongside_ite (fun _ => r.alongside_expression.map _) fun _ => ?_
  refine (alongside_eatSymbol "," (by decide)).bind fun _ => ?_
  exact alongside_ite (fun _ => r.alongside_expression.map _) fun _ => alongside_pure _

theorem alongside_select : r.Alongside select select := by
  rw [select]
  refine alongside_distinct.bind fun distinct => alongside_resultColumn.commaList.bind fun columns => ?_
  refine alongside_fromClause.bind fun table => alongside_whereClause.bind fun condition => ?_
  exact alongside_orderClause.bind fun ordering => alongside_limitClause.map _

/-! ### Statements -/

theorem alongside_statementBody {word : Keyword} {body : Parser Statement} (h : statementBody? word = some body) :
    r.Alongside body body := by
  unfold statementBody? at h
  split at h <;> cases h
  · exact alongside_createTable.map _
  · exact alongside_dropTable.map _
  · exact alongside_insert.map _
  · exact (alongside_insertInto _).map _
  · exact alongside_update.map _
  · exact alongside_delete.map _
  · exact alongside_select.map _

/-- A statement is read alongside itself. -/
theorem at_statementFrom (t : Token) (ts : List Token) :
    r.At (t :: ts) (statementFrom t) (statementFrom (t.shift r.distance)) := by
  rw [statementFrom, statementFrom, Token.keyword?_shift, Token.kind_shift]
  cases hbody : t.keyword?.bind statementBody? with
  | some body =>
    obtain ⟨word, -, hword⟩ := Option.bind_eq_some_iff.1 hbody
    exact at_skip_bind (alongside_statementBody hword ts)
  | none => exact at_ite (fun _ => at_fail fun _ => ⟨rfl, rfl⟩) fun _ => at_fail (sameError_unexpected t _)

end SqlFormula.Parser.Relocation
