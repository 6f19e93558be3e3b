import SqlFormula.Proofs.Eval.Operands
import SqlFormula.Proofs.Outcome

/-!
# Forms that abbreviate others

A simple `CASE` compares one operand with each of its conditions, and `BETWEEN` compares one with two bounds. Both have
evaluations of their own. The simple `CASE` is the searched one whose conditions are the comparisons. `BETWEEN` evaluates
both bounds, so it fails where the conjunction of the comparisons does not look at the second one; otherwise they are
the same.

## Main definitions

- `Expr.comparing` — the clauses of a searched `CASE` for those of a simple one
- `Expr.withinBounds` — the conjunction that `BETWEEN` stands for
- `Expr.betweenTruth` — the condition that `BETWEEN` comes to

## Main statements

- `Expr.eval_caseOf_eq_searched` — a simple `CASE` is a searched one
- `Expr.betweenTruth_eq_ok_iff` — `BETWEEN` has a value where both comparisons have
- `Expr.eval_between_of_conjunction` — `BETWEEN` and the conjunction of the comparisons
-/

namespace SqlFormula

/-- What the comparison operators ask of an order. -/
inductive BinaryOperator.AsksFor : BinaryOperator → (Ordering → Bool) → Prop
  | lessThan : AsksFor .lessThan Ordering.isLT
  | lessThanOrEqual : AsksFor .lessThanOrEqual Ordering.isLE
  | greaterThan : AsksFor .greaterThan Ordering.isGT
  | greaterThanOrEqual : AsksFor .greaterThanOrEqual Ordering.isGE

section

variable {op : BinaryOperator} {holds : Ordering → Bool} {c : Collation} {v w : Value} {truth : Option Bool}

theorem BinaryOperator.AsksFor.decided? (h : op.AsksFor holds) (v : Value) : decided? op v = none := by
  cases h <;> rfl

theorem BinaryOperator.AsksFor.combine (h : op.AsksFor holds) (options : Options) (c : Collation) (v w : Value) :
    combine options op c v w = (ordered? op.symbol c holds v w).map .ofTruth := by
  cases h <;> rfl

/-- The name of the operator is of account in errors only. -/
theorem ordered?_eq_ok_iff (operator operator' : String) :
    ordered? operator c holds v w = .ok truth ↔ ordered? operator' c holds v w = .ok truth := by
  rw [ordered?, ordered?]
  by_cases hnull : (v.isNull || w.isNull) = true
  · rw [if_pos hnull, if_pos hnull]
  · rw [if_neg hnull, if_neg hnull, Value.orderFor, Value.orderFor]
    cases Value.coercedOrdering? c v w with
    | none => exact ⟨nofun, nofun⟩
    | some o => exact Iff.rfl

end

theorem collationOf_eq_binary {operands : List Expr} (h : ∀ e ∈ operands, e.collation? = none) :
    collationOf operands = .binary := by
  rw [collationOf, List.findSome?_eq_none_iff.2 h]
  rfl

namespace Expr

variable {ctx : Context} {record : Record}

/-! ### `CASE` -/

/-- The clauses of a searched `CASE` for those of a simple one: each condition is a comparison with the operand. -/
def comparing (operand : Expr) (clauses : List (Expr × Expr)) : List (Expr × Expr) :=
  clauses.map fun (condition, result) => (.binary .equal false operand condition, result)

section

variable {operand : Expr} {base : Value}

/-- Once the operand has a value, a clause is chosen by its comparison as it is by its condition. -/
theorem evalClauses_comparing (hoperand : operand.eval ctx record = .ok base) (clauses : List (Expr × Expr)) :
    evalClauses ctx record (fun _ v => v.truth? == some true) (comparing operand clauses) =
      evalClauses ctx record (fun condition v => equality? (collationOf [operand, condition]) base v == some true)
        clauses := by
  have hstrict : decided? .equal base = none := decided?_eq_none (by decide) (by decide) base
  induction clauses with
  | nil => rfl
  | cons clause rest ih =>
    obtain ⟨condition, result⟩ := clause
    rw [comparing] at ih
    rw [comparing, List.map_cons, evalClauses, evalClauses, ih]
    cases hcondition : condition.eval ctx record with
    | error error =>
      rw [eval_binary_right_error hoperand hstrict hcondition]
      rfl
    | ok v =>
      rw [eval_binary_values hoperand hstrict hcondition, combine]
      show (if (Value.ofTruth _).truth? == some true then _ else _) = if _ then _ else _
      rw [Value.truth?_ofTruth]

/-- A simple `CASE` evaluates its operand first, and that once. -/
theorem eval_caseOf (operand : Expr) (clauses : List (Expr × Expr)) (otherwise : Expr) :
    (caseOf operand clauses otherwise).eval ctx record =
      (operand.eval ctx record).bind fun _ => (caseWhen (comparing operand clauses) otherwise).eval ctx record := by
  rw [eval, eval]
  cases hoperand : operand.eval ctx record with
  | error error => rfl
  | ok base =>
    rw [evalClauses_comparing hoperand]
    rfl

/-- **A simple `CASE` is a searched one**: for any clauses, at least one of them, it has the same value or the same error
as the `CASE` whose conditions compare the operand with those of the clauses, whatever collations they carry. -/
theorem eval_caseOf_eq_searched (ctx : Context) (record : Record) (operand : Expr) {clauses : List (Expr × Expr)}
    (hclauses : clauses ≠ []) (otherwise : Expr) :
    (caseOf operand clauses otherwise).eval ctx record =
      (caseWhen (comparing operand clauses) otherwise).eval ctx record := by
  rw [eval_caseOf]
  cases hoperand : operand.eval ctx record with
  | ok base => rfl
  | error error =>
    -- the first comparison fails with its left side
    cases clauses with
    | nil => exact absurd rfl hclauses
    | cons clause rest =>
      obtain ⟨condition, result⟩ := clause
      rw [comparing, List.map_cons, eval, evalClauses, eval_binary_left_error hoperand]
      rfl

/-- Clauses of which the first is not chosen by any operand, and the last one fails without a field. -/
def cityClauses : List (Expr × Expr) :=
  [(.literal .null, .literal (.integer 1)), (.literal (.text "PARIS"), .literal (.integer 2)),
    (.field "city", .literal (.integer 3))]

/-- The operand brings its collation into the comparison with the second condition, and the third one is not evaluated. -/
theorem eval_caseOf_eq_searched_noCase :
    cityClauses ≠ [] ∧
      (caseOf (.collate (.literal (.text "Paris")) .noCase) cityClauses (.literal .null)).eval default [] =
        (caseWhen (comparing (.collate (.literal (.text "Paris")) .noCase) cityClauses) (.literal .null)).eval default [] ∧
      (caseOf (.collate (.literal (.text "Paris")) .noCase) cityClauses (.literal .null)).eval default [] =
        .ok (.integer 2) := by
  have hclauses : cityClauses ≠ [] := List.cons_ne_nil _ _
  exact ⟨hclauses, eval_caseOf_eq_searched default [] _ hclauses _, rfl⟩

end

/-! ### `BETWEEN` -/

/-- The conjunction that `BETWEEN` stands for. -/
def withinBounds (operand low high : Expr) : Expr :=
  .binary .and false (.binary .greaterThanOrEqual false operand low) (.binary .lessThanOrEqual false operand high)

/-- The condition that `BETWEEN` comes to. -/
def betweenTruth (ctx : Context) (record : Record) (operand low high : Expr) : Except EvalError (Option Bool) := do
  let v ← operand.eval ctx record
  let least ← low.eval ctx record
  let most ← high.eval ctx record
  SqlFormula.between (collationOf [operand, low, high]) v least most

section

variable {operand low high : Expr}

theorem eval_between (negate : Bool) (operand low high : Expr) :
    (between negate operand low high).eval ctx record =
      (betweenTruth ctx record operand low high).map fun truth =>
        .ofTruth (if negate then invert? truth else truth) := by
  have hinvert (truth : Option Bool) :
      (Value.ofTruth truth).invertIf negate = .ofTruth (if negate then invert? truth else truth) := by
    cases negate with
    | false => rfl
    | true => exact Value.invert_ofTruth truth
  rw [eval, betweenTruth]
  simp only [hinvert]
  cases operand.eval ctx record with
  | error error => rfl
  | ok v =>
    cases low.eval ctx record with
    | error error => rfl
    | ok least => cases high.eval ctx record <;> rfl

/-- A comparison has a value where its sides have values and a common type, or one of them is NULL. -/
theorem eval_comparison_eq_ok_iff {op : BinaryOperator} {holds : Ordering → Bool} {left right : Expr} {result : Value}
    (hop : op.AsksFor holds) (operator : String) :
    (binary op false left right).eval ctx record = .ok result ↔
      ∃ v w truth, left.eval ctx record = .ok v ∧ right.eval ctx record = .ok w ∧
        ordered? operator (collationOf [left, right]) holds v w = .ok truth ∧ .ofTruth truth = result := by
  cases hleft : left.eval ctx record with
  | error error =>
    rw [eval_binary_left_error hleft]
    simp
  | ok v =>
    cases hright : right.eval ctx record with
    | error error =>
      rw [eval_binary_right_error hleft (hop.decided? v) hright]
      simp
    | ok w =>
      rw [eval_binary_values hleft (hop.decided? v) hright, hop.combine, map_eq_ok]
      simp only [ordered?_eq_ok_iff op.symbol operator, Except.ok.injEq, exists_and_left, exists_eq_left']

variable (hoperand : operand.collation? = none) (hlow : low.collation? = none) (hhigh : high.collation? = none)

include hoperand hlow hhigh

/-- `BETWEEN` has a value where both comparisons have one, and is their conjunction. -/
theorem betweenTruth_eq_ok_iff {truth : Option Bool} :
    betweenTruth ctx record operand low high = .ok truth ↔
      ∃ above below, (binary .greaterThanOrEqual false operand low).eval ctx record = .ok (.ofTruth above) ∧
        (binary .lessThanOrEqual false operand high).eval ctx record = .ok (.ofTruth below) ∧
        conj above below = truth := by
  have hbinary {e : Expr} (he : e.collation? = none) : collationOf [operand, e] = .binary :=
    collationOf_eq_binary (by simp [hoperand, he])
  have hbounds : collationOf [operand, low, high] = .binary := collationOf_eq_binary (by simp [hoperand, hlow, hhigh])
  rw [betweenTruth, hbounds]
  simp only [eval_comparison_eq_ok_iff .greaterThanOrEqual "BETWEEN", eval_comparison_eq_ok_iff .lessThanOrEqual "BETWEEN",
    hbinary hlow, hbinary hhigh, SqlFormula.between, bind_eq_ok]
  constructor
  · rintro ⟨v, hv, least, hleast, most, hmost, above, habove, below, hbelow, ⟨⟩⟩
    exact ⟨above, below, ⟨v, least, above, hv, hleast, habove, rfl⟩, ⟨v, most, below, hv, hmost, hbelow, rfl⟩, rfl⟩
  · rintro ⟨above, below, ⟨v, least, truth, hv, hleast, habove, htruth⟩, ⟨v', most, truth', hv', hmost, hbelow, htruth'⟩,
      rfl⟩
    -- the operand has one value
    obtain rfl : v = v' := Except.ok.inj (hv.symm.trans hv')
    obtain rfl := Value.ofTruth_injective htruth
    obtain rfl := Value.ofTruth_injective htruth'
    exact ⟨v, hv, least, hleast, most, hmost, truth, habove, truth', hbelow, rfl⟩

theorem eval_withinBounds_of_betweenTruth {truth : Option Bool}
    (h : betweenTruth ctx record operand low high = .ok truth) :
    (withinBounds operand low high).eval ctx record = .ok (.ofTruth truth) := by
  obtain ⟨above, below, habove, hbelow, rfl⟩ := (betweenTruth_eq_ok_iff hoperand hlow hhigh).1 h
  by_cases hsettled : above = some false
  · have hdecided : decided? .and (.ofTruth above) = some (.boolean false) := by rw [hsettled]; rfl
    rw [withinBounds, eval_binary_decided habove hdecided, hsettled, conj]
    rfl
  · have hdecided : decided? .and (.ofTruth above) = none := by
      rw [Option.eq_none_iff_forall_ne_some]
      intro result hresult
      rw [decided?_and_eq_some_iff, Value.truth?_ofTruth] at hresult
      exact hsettled hresult.1
    rw [withinBounds, eval_binary_values habove hdecided hbelow, combine, Value.truth?_ofTruth, Value.truth?_ofTruth]

/-- **`BETWEEN` is the conjunction of two comparisons** where it has a value: true, false or unknown. It fails where the
conjunction fails. Its negation is that of its condition, and fails where it fails. -/
theorem eval_between_of_conjunction (ctx : Context) (record : Record) :
    (∀ v, (between false operand low high).eval ctx record = .ok v →
      (withinBounds operand low high).eval ctx record = .ok v) ∧
    (∀ error, (withinBounds operand low high).eval ctx record = .error error →
      ∃ error', (between false operand low high).eval ctx record = .error error') ∧
    ∃ condition : Except EvalError (Option Bool),
      (between false operand low high).eval ctx record = condition.map .ofTruth ∧
      (between true operand low high).eval ctx record = condition.map fun truth => .ofTruth (invert? truth) := by
  have hvalue (v : Value) (h : (between false operand low high).eval ctx record = .ok v) :
      (withinBounds operand low high).eval ctx record = .ok v := by
    rw [eval_between, map_eq_ok] at h
    obtain ⟨truth, htruth, rfl⟩ := h
    exact eval_withinBounds_of_betweenTruth hoperand hlow hhigh htruth
  refine ⟨hvalue, ?_, betweenTruth ctx record operand low high, eval_between .., eval_between ..⟩
  intro error herror
  cases hbetween : (between false operand low high).eval ctx record with
  | error error' => exact ⟨error', rfl⟩
  | ok v =>
    rw [hvalue v hbetween] at herror
    cases herror

end

/-- An unknown bound on one side, and a text as the bound on the other side, which the operand is above. -/
theorem eval_between_of_conjunction_unknown :
    collation? (.literal (.integer 20)) = none ∧ collation? (.literal .null) = none ∧
      collation? (.literal (.text "10")) = none ∧
      (between false (.literal (.integer 20)) (.literal .null) (.literal (.text "10"))).eval default [] =
        .ok (.boolean false) ∧
      (withinBounds (.literal (.integer 20)) (.literal .null) (.literal (.text "10"))).eval default [] =
        .ok (.boolean false) := by
  have hbetween : (between false (.literal (.integer 20)) (.literal .null) (.literal (.text "10"))).eval default [] =
      .ok (.boolean false) := by
    rfl
  obtain ⟨hvalue, -, -⟩ := @eval_between_of_conjunction (.literal (.integer 20)) (.literal .null)
    (.literal (.text "10")) rfl rfl rfl default []
  exact ⟨rfl, rfl, rfl, hbetween, hvalue _ hbetween⟩

end Expr

end SqlFormula
