import SqlFormula.Proofs.Parse.Invariants

/-!
# What is read is well formed

Those who take syntax trees apart rely on more than their types say: lists that are not empty, rows as long as the list
of columns, an offset only beside a limit. The grammar makes no other trees.

## Main definitions

- `Statement.IsProper` — the lists of a statement are as the grammar has them
- `Statement.WellFormed` — a statement is proper, and its expressions are well formed

## Main statements

- `Parser.isProper_statements` — every statement that is read is proper
- `wellFormed_of_text` — every tree that a text gives is well formed
-/

namespace SqlFormula

/-! ### Proper statements -/

/-- A key or a uniqueness names columns. -/
def TableConstraint.IsProper : TableConstraint → Prop
  | .primaryKey columns | .unique columns | .foreignKey columns _ => columns ≠ []
  | .check _ => True

/-- The lists of a statement, apart from its expressions: none is empty that has to have members, each row has a value
for every named column, and an offset stands beside a limit. -/
def Statement.IsProper : Statement → Prop
  | .createTable s => s.columns ≠ [] ∧ ∀ constraint ∈ s.constraints, constraint.kind.IsProper
  | .insert s =>
    s.rows ≠ [] ∧ ∀ row ∈ s.rows, row ≠ [] ∧ (s.columns ≠ [] → row.length = s.columns.length)
  | .update s => s.assignments ≠ []
  | .select s => s.columns ≠ [] ∧ (s.offset.isSome → s.limit.isSome)
  | .dropTable _ | .delete _ => True

/-- A statement is proper, and all expressions in it are well formed. -/
def Statement.WellFormed (s : Statement) : Prop :=
  s.IsProper ∧ ∀ e ∈ s.exprs, e.WellFormed

namespace Parser

open Reader

theorem ensures_identifierList (what : String) : (identifierList what).Ensures fun names _ => names ≠ [] :=
  ensures_parenthesized ensures_sepBy1_ne_nil

/-! ### Tables -/

theorem isProper_tableConstraintKind : tableConstraintKind.Ensures fun c _ => c.IsProper := by
  rw [tableConstraintKind]
  refine ensures_bind fun t => ?_
  split
  · exact ensures_bind fun _ => (ensures_identifierList _).map fun _ _ hne => hne
  · exact (ensures_identifierList _).map fun _ _ hne => hne
  · exact ensures_bind fun _ => ensures_pure fun _ => trivial
  · refine ensures_bind fun _ => (ensures_identifierList _).bind fun _ _ hne => ?_
    exact ensures_bind fun _ => ensures_bind fun _ => ensures_pure fun _ => hne
  · exact ensures_fail _

theorem isProper_tableConstraint : tableConstraint.Ensures fun c _ => c.kind.IsProper := by
  rw [tableConstraint]
  refine ensures_bind fun named => ?_
  split
  · exact ensures_bind fun name => isProper_tableConstraintKind.map fun _ _ hc => hc
  · exact isProper_tableConstraintKind.map fun _ _ hc => hc

theorem isProper_tablePart {parts : TableParts} (hparts : ∀ c ∈ parts.constraints, c.kind.IsProper) :
    (tablePart parts).Ensures fun ps _ => ∀ c ∈ ps.constraints, c.kind.IsProper := by
  rw [tablePart]
  refine ensures_bind fun next => ?_
  split
  · exact isProper_tableConstraint.map fun c _ hc =>
      List.forall_mem_append.2 ⟨hparts, List.forall_mem_singleton.2 hc⟩
  · split
    · exact ensures_bind fun _ => ensures_pure fun _ => hparts
    · exact ensures_errorAtFront _

theorem isProper_tableParts : tableParts.Ensures fun ps _ => ∀ c ∈ ps.constraints, c.kind.IsProper := by
  rw [tableParts]
  refine (isProper_tablePart (List.forall_mem_nil _)).bind fun parts _ hparts => ?_
  refine (ensures_loop (I := fun ps _ => ∀ c ∈ ps.constraints, c.kind.IsProper) (fun _ => hparts) ?_).mono
    fun ps _ hps => hps.1
  intro _ ps _ hps _
  exact ensures_bind fun _ => isProper_tablePart hps

theorem isProper_createTable : createTable.Ensures fun s _ => (Statement.createTable s).IsProper := by
  rw [createTable]
  refine ensures_bind fun _ => ensures_bind fun _ => ensures_bind fun _ => ensures_bind fun _ => ?_
  refine isProper_tableParts.bind fun parts _ hparts => ensures_bind fun _ => ?_
  split
  · exact ensures_fail _
  · next hcolumns =>
    exact ensures_pure fun _ => ⟨fun hnil => hcolumns (List.isEmpty_iff.2 hnil), hparts⟩

/-! ### Rows -/

theorem isProper_row (columns : List String) :
    (row columns).Ensures fun es _ => es ≠ [] ∧ (columns ≠ [] → es.length = columns.length) := by
  rw [row]
  refine ensures_bind fun _ => ensures_sepBy1_ne_nil.bind fun values _ hne => ensures_bind fun _ => ?_
  split
  · next hlength =>
    refine ensures_pure fun _ => ⟨hne, fun hcolumns => ?_⟩
    simpa [hcolumns] using hlength
  · exact ensures_fail _

theorem isProper_insertInto (onConflict : Option ConflictResolution) :
    (insertInto onConflict).Ensures fun s _ => (Statement.insert s).IsProper :=
  ensures_insertInto_of_rows fun columns =>
    (ensures_sepBy1_ne_nil.and (isProper_row columns).sepBy1).mono fun _ _ hrows _ => hrows

theorem isProper_insert : insert.Ensures fun s _ => (Statement.insert s).IsProper := by
  rw [insert]
  refine ensures_bind fun found => ?_
  split
  · exact ensures_bind fun _ => isProper_insertInto _
  · exact isProper_insertInto _

theorem isProper_update : update.Ensures fun s _ => (Statement.update s).IsProper := by
  rw [update]
  refine ensures_bind fun table => ensures_bind fun _ => ensures_sepBy1_ne_nil.bind fun assignments _ hne => ?_
  exact ensures_bind fun _ => ensures_pure fun _ => hne

/-! ### Queries -/

theorem isSome_limitClause : limitClause.Ensures fun l _ => l.2.isSome → l.1.isSome := by
  rw [limitClause]
  refine ensures_bind fun found => ?_
  split
  · refine ensures_bind fun first => ensures_bind fun found => ?_
    split
    · exact ensures_bind fun second => ensures_pure fun _ _ => rfl
    · refine ensures_bind fun comma => ?_
      split
      · exact ensures_bind fun second => ensures_pure fun _ _ => rfl
      · exact ensures_pure fun _ _ => rfl
  · exact ensures_pure fun _ hoffset => hoffset

theorem isProper_select : select.Ensures fun s _ => (Statement.select s).IsProper := by
  rw [select]
  refine ensures_bind fun distinct => ensures_sepBy1_ne_nil.bind fun columns _ hne => ?_
  refine ensures_bind fun table => ensures_bind fun condition => ensures_bind fun ordering => ?_
  exact isSome_limitClause.bind fun limits _ hlimits => ensures_pure fun _ => ⟨hne, hlimits⟩

/-! ### Statements -/

/-- Every statement that is read is proper. -/
theorem isProper_statements : statements.Ensures fun ss _ => ∀ s ∈ ss, s.IsProper := by
  refine ensures_sequence (ensures_statementFrom fun k body hk => ?_)
  unfold statementBody? at hk
  split at hk <;> cases hk
  · exact isProper_createTable.map fun _ _ hs => hs
  · exact ensures_bind fun _ => ensures_pure fun _ => trivial
  · exact isProper_insert.map fun _ _ hs => hs
  · exact (isProper_insertInto _).map fun _ _ hs => hs
  · exact isProper_update.map fun _ _ hs => hs
  · exact ensures_bind fun _ => ensures_pure fun _ => trivial
  · exact isProper_select.map fun _ _ hs => hs

/-- Every expression that is read is well formed. -/
theorem holdsOfRead_wellFormed : HoldsOfRead Expr.WellFormed :=
  holdsOfRead_of_passes ⟨id, fun hproper hparts => Expr.wellFormed_iff.2 ⟨hproper, hparts⟩⟩

end Parser

open SqlFormula.Parser

/-- **What is read is well formed**: the tree of a formula, and those of all statements of a text. -/
theorem wellFormed_of_text (text : String) :
    (∀ e, parseFormula text = .ok e → e.WellFormed) ∧
    ∀ ss, parseStatements text = .ok ss → ∀ s ∈ ss, s.WellFormed := by
  refine ⟨fun e he => ?_, fun ss hss s hs => ⟨?_, ?_⟩⟩
  · exact of_runOn_eq_ok (ensures_formula holdsOfRead_wellFormed) he
  · exact of_runOn_eq_ok isProper_statements hss s hs
  · exact of_runOn_eq_ok (ensures_statements holdsOfRead_wellFormed) hss s hs

/-- A formula with a case, and a statement that inserts two rows with a value for each column. -/
theorem wellFormed_examples :
    (∃ e, parseFormula "CASE WHEN a IS NOT NULL THEN -1 ELSE 2.5 END" = .ok e ∧ e.WellFormed) ∧
    ∃ ss s, parseStatements "INSERT INTO t (a, b) VALUES (1, 2), (3, a NOT LIKE 'x')" = .ok ss ∧ s ∈ ss ∧
      s.WellFormed := by
  have hformula : (parseFormula "CASE WHEN a IS NOT NULL THEN -1 ELSE 2.5 END").isOk = true := by decide +kernel
  have hstatements :
      (parseStatements "INSERT INTO t (a, b) VALUES (1, 2), (3, a NOT LIKE 'x')").toOption.map List.length = some 1 := by
    decide +kernel
  constructor
  · cases he : parseFormula "CASE WHEN a IS NOT NULL THEN -1 ELSE 2.5 END" with
    | error _ =>
      rw [he] at hformula
      cases hformula
    | ok e => exact ⟨e, rfl, (wellFormed_of_text _).1 e he⟩
  · cases hss : parseStatements "INSERT INTO t (a, b) VALUES (1, 2), (3, a NOT LIKE 'x')" with
    | error _ =>
      rw [hss] at hstatements
      cases hstatements
    | ok ss =>
      rw [hss] at hstatements
      obtain ⟨s, rfl⟩ := List.length_eq_one_iff.1 (Option.some.inj hstatements)
      exact ⟨[s], s, rfl, List.mem_singleton.2 rfl, (wellFormed_of_text _).2 [s] hss s (List.mem_singleton.2 rfl)⟩

end SqlFormula
