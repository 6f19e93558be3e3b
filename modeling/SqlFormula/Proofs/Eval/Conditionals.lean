import SqlFormula.Proofs.Eval.Abbreviations
import SqlFormula.Proofs.Eval.Dispatch

/-!
# Conditional functions are searched `CASE` expressions

`coalesce` and `ifnull`, `iif`, and `nullif` are evaluated on three paths of their own. Each of them is a searched `CASE`:
it has the same value where it has one, and else the same error. A searched `CASE` is looked at one clause at a time.

## Main definitions

- `Expr.isNotNull` — the condition that an expression is not NULL
- `Expr.firstPresent` — the searched `CASE` for the first expression that is not NULL
- `Expr.unlessEqual` — the searched `CASE` for an expression, or NULL where it is equal to another one

## Main statements

- `Expr.eval_caseWhen_cons` — a searched `CASE` decides on its first clause, or goes on with the others
- `Expr.eval_firstPresent`, `Expr.eval_unlessEqual` — what the two searched `CASE` expressions come to
- `Expr.eval_conditional_functions` — the conditional functions and their expansions
-/

namespace SqlFormula.Expr

variable {ctx : Context} {record : Record}

/-! ### Searched `CASE`, clause by clause -/

theorem eval_caseWhen_nil (otherwise : Expr) :
    (caseWhen [] otherwise).eval ctx record = otherwise.eval ctx record := by
  rw [eval]
  rfl

/-- The first clause is decided on before any other one is looked at. -/
theorem eval_caseWhen_cons (condition result : Expr) (clauses : List (Expr × Expr)) (otherwise : Expr) :
    (caseWhen ((condition, result) :: clauses) otherwise).eval ctx record =
      (condition.eval ctx record).bind fun v =>
        if v.truth? == some true then result.eval ctx record
        else (caseWhen clauses otherwise).eval ctx record := by
  rw [eval, evalClauses, eval]
  cases condition.eval ctx record with
  | error error => rfl
  | ok v =>
    simp only [bind, Except.bind]
    by_cases htrue : (v.truth? == some true) = true
    · rw [if_pos htrue, if_pos htrue]
      cases result.eval ctx record <;> rfl
    · rw [if_neg htrue, if_neg htrue]

/-! ### The first value that is not NULL -/

/-- The condition that an expression is not NULL. -/
def isNotNull (e : Expr) : Expr :=
  .binary .is true e (.literal .null)

/-- The searched `CASE` that gives the first of some expressions that is not NULL. -/
def firstPresent (es : List Expr) : Expr :=
  .caseWhen (es.map fun e => (isNotNull e, e)) (.literal .null)

theorem eval_isNotNull (e : Expr) :
    (isNotNull e).eval ctx record = (e.eval ctx record).map fun v => .boolean !v.isNull := by
  cases he : e.eval ctx record with
  | error error =>
    rw [isNotNull, eval_binary_left_error he]
    rfl
  | ok v =>
    have hdecided : decided? .is v = none := decided?_eq_none (by decide) (by decide) v
    rw [isNotNull, eval, he]
    simp only [bind, Except.bind, hdecided, eval, combine, isSame]
    cases v <;> rfl

/-- An expression that is not NULL is evaluated twice by the `CASE`, with the same value. -/
theorem eval_firstPresent (es : List Expr) : (firstPresent es).eval ctx record = firstNonNull ctx record es := by
  induction es with
  | nil => exact eval_caseWhen_nil _
  | cons e es ih =>
    rw [firstPresent] at ih
    rw [firstPresent, List.map_cons, eval_caseWhen_cons, eval_isNotNull, ih, firstNonNull]
    cases he : e.eval ctx record with
    | error error => rfl
    | ok v => cases hnull : v.isNull <;> simp [Except.map, Except.bind, bind, hnull, Value.truth?, pure, Except.pure]

/-! ### Equal values -/

/-- The searched `CASE` that gives the value of an expression, or NULL where it is equal to that of another one. -/
def unlessEqual (a b : Expr) : Expr :=
  .caseWhen [(.binary .equal false a b, .literal .null)] a

/-- NULL is equal to nothing. -/
theorem ofNullIf_eq (v w : Value) :
    Call.ofNullIf v w = if equality? .binary v w == some true then .null else v := by
  rw [Call.ofNullIf, equality?]
  cases v.isNull <;> cases w.isNull <;> simp

/-- Operands that carry no collation are compared as they are. -/
theorem eval_unlessEqual {a b : Expr} (ha : a.collation? = none) (hb : b.collation? = none) :
    (unlessEqual a b).eval ctx record =
      (a.eval ctx record).bind fun v => (b.eval ctx record).bind fun w => .ok (Call.ofNullIf v w) := by
  have hstrict (v : Value) : decided? .equal v = none := decided?_eq_none (by decide) (by decide) v
  have hcollation : collationOf [a, b] = .binary := collationOf_eq_binary (by simp [ha, hb])
  rw [unlessEqual, eval_caseWhen_cons, eval_caseWhen_nil]
  cases hleft : a.eval ctx record with
  | error error =>
    rw [eval_binary_left_error hleft]
    rfl
  | ok v =>
    cases hright : b.eval ctx record with
    | error error =>
      rw [eval_binary_right_error hleft (hstrict v) hright]
      rfl
    | ok w =>
      rw [eval_binary_values hleft (hstrict v) hright, combine, hcollation]
      simp only [Except.bind, Value.truth?_ofTruth, ofNullIf_eq, eval]
      split <;> rfl

/-! ### Calls -/

/-- `nullif` evaluates both of its arguments before it compares them. -/
theorem eval_call_nullIf (a b : Expr) :
    (call .nullIf [a, b]).eval ctx record =
      (a.eval ctx record).bind fun v => (b.eval ctx record).bind fun w => .ok (Call.ofNullIf v w) := by
  rw [eval_call_eager rfl, evalAll_cons, evalAll_cons, evalAll]
  cases a.eval ctx record with
  | error error => rfl
  | ok v => cases b.eval ctx record <;> rfl

/-- **The conditional functions are searched `CASE` expressions,** with the same values and the same errors: `coalesce` and
`ifnull` give the first argument that is not NULL, `iif` decides on a condition, and `nullif`, whose arguments carry no
collation, leaves out a value that is equal to another one. -/
theorem eval_conditional_functions (ctx : Context) (record : Record) :
    (∀ args : List Expr, 2 ≤ args.length →
      (call .coalesce args).eval ctx record = (firstPresent args).eval ctx record) ∧
    (∀ a b, (call .ifNull [a, b]).eval ctx record = (firstPresent [a, b]).eval ctx record) ∧
    (∀ c t f, (call .iif [c, t, f]).eval ctx record = (caseWhen [(c, t)] f).eval ctx record) ∧
    ∀ a b : Expr, a.collation? = none → b.collation? = none →
      (call .nullIf [a, b]).eval ctx record = (unlessEqual a b).eval ctx record := by
  refine ⟨fun args hargs => ?_, fun a b => ?_, fun c t f => ?_, fun a b ha hb => ?_⟩
  · have hadmits : Builtin.coalesce.arity.admits args.length = true := by
      simp [Builtin.arity, Builtin.Arity.admits, hargs]
    rw [eval_call_conditional rfl, checkArity_of_admits hadmits, eval_firstPresent]
    rfl
  · rw [eval_call_conditional rfl, eval_firstPresent]
    rfl
  · rw [eval_call_conditional rfl, eval_caseWhen_cons, eval_caseWhen_nil]
    rfl
  · rw [eval_call_nullIf, eval_unlessEqual ha hb]

/-- The missing field is not reached by `coalesce`, and a text is equal to an integer. -/
theorem eval_conditional_functions_present :
    2 ≤ [literal .null, literal (.text "x"), field "missing"].length ∧
      (firstPresent [literal .null, literal (.text "x"), field "missing"]).eval default [] = .ok (.text "x") ∧
      collation? (literal (.integer 1)) = none ∧ collation? (literal (.text "1")) = none ∧
      (unlessEqual (literal (.integer 1)) (literal (.text "1"))).eval default [] = .ok .null := by
  obtain ⟨hcoalesce, -, -, hnullIf⟩ := eval_conditional_functions default []
  refine ⟨by decide, ?_, rfl, rfl, ?_⟩
  · rw [← hcoalesce _ (by decide)]
    rfl
  · rw [← hnullIf _ _ rfl rfl]
    rfl

/-- A collation counts in the comparison, but not for `nullif`. -/
example :
    (call .nullIf [collate (literal (.text "x")) .noCase, literal (.text "X")]).eval default [] = .ok (.text "x") ∧
      (unlessEqual (collate (literal (.text "x")) .noCase) (literal (.text "X"))).eval default [] = .ok .null :=
  ⟨rfl, rfl⟩

end SqlFormula.Expr
