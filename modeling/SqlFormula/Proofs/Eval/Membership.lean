import SqlFormula.Proofs.Eval.Operands
import SqlFormula.Proofs.Value.Comparison

/-!
# Membership in a list

`IN` evaluates the operand and every candidate, also those after a match, so the first error among them is its own. Its
condition is a disjunction over the candidates: whether each of them is equal to the operand, which is unknown where one
of the two is NULL. The search for a match and for a NULL comes to the same.

## Main definitions

- `Value.matches?` — whether a candidate is equal to the operand of `IN`

## Main statements

- `isAmong?_eq_anyOf?` — the search is a disjunction
- `Expr.eval_among_eq_error_iff`, `Expr.eval_among_eq_ok_iff` — the outcomes of a membership test
- `Expr.eval_membership` — the outcomes of `IN` and `NOT IN`
-/

namespace SqlFormula

/-! ### Candidates -/

/-- Whether two values are equal part by part; unknown if one of them is NULL. -/
def Value.matches? (v w : Value) : Option Bool :=
  if v.isNull || w.isNull then none else some (v.equals w)

section

variable {v w : Value} {ws : List Value} {b : Bool}

theorem Value.matches?_eq_some_iff : v.matches? w = some b ↔ v.isNull = false ∧ w.isNull = false ∧ v.equals w = b := by
  rw [matches?]
  cases v.isNull <;> cases w.isNull <;> simp

theorem Value.matches?_eq_none_iff : v.matches? w = none ↔ v.isNull = true ∨ w.isNull = true := by
  rw [matches?]
  cases v.isNull <;> cases w.isNull <;> simp

/-- A match is equal to the operand for every comparison. -/
theorem equality?_of_matches? (c : Collation) (h : v.matches? w = some true) : equality? c v w = some true := by
  obtain ⟨hv, hw, hequals⟩ := Value.matches?_eq_some_iff.1 h
  rw [equality?, hv, hw, Value.compareWith_of_equals c hequals]
  rfl

theorem some_true_mem_matches_iff :
    some true ∈ ws.map v.matches? ↔ v.isNull = false ∧ ws.any (fun w => !w.isNull && v.equals w) = true := by
  simp only [List.mem_map, List.any_eq_true, Value.matches?_eq_some_iff, Bool.and_eq_true, Bool.not_eq_true']
  constructor
  · rintro ⟨w, hw, hv, hwNull, hequals⟩
    exact ⟨hv, w, hw, hwNull, hequals⟩
  · rintro ⟨hv, w, hw, hwNull, hequals⟩
    exact ⟨w, hw, hv, hwNull, hequals⟩

/-- A NULL on one side of a comparison leaves it open whether there is a match, if no other candidate is one. -/
theorem anyOf?_matches_of_isNull (hmatch : some true ∉ ws.map v.matches?) (hw : w ∈ ws)
    (hnull : v.isNull = true ∨ w.isNull = true) : anyOf? (ws.map v.matches?) = none := by
  refine anyOf?_eq_none_iff.2 ⟨hmatch, v.matches? w, List.mem_map_of_mem hw, ?_⟩
  rw [Value.matches?_eq_none_iff.2 hnull]
  exact nofun

/-- Looking for a match, and then for a NULL, decides whether one of the candidates is equal. -/
theorem isAmong?_eq_anyOf? (v : Value) (ws : List Value) : isAmong? v ws = anyOf? (ws.map v.matches?) := by
  rw [isAmong?]
  by_cases hempty : ws.isEmpty = true
  · rw [if_pos hempty, List.isEmpty_iff.1 hempty]
    rfl
  · rw [if_neg hempty]
    by_cases hv : v.isNull = true
    · obtain ⟨w, hw⟩ := List.isEmpty_eq_false_iff_exists_mem.1 (Bool.eq_false_of_not_eq_true hempty)
      -- nothing matches a NULL, and there is a candidate that it is compared with
      have hmatch : some true ∉ ws.map v.matches? := by
        rw [some_true_mem_matches_iff, hv]
        exact nofun
      rw [if_pos hv, anyOf?_matches_of_isNull hmatch hw (.inl hv)]
    · rw [if_neg hv]
      rw [Bool.not_eq_true] at hv
      by_cases hmatch : ws.any (fun w => !w.isNull && v.equals w) = true
      · rw [if_pos hmatch, eq_comm, anyOf?_eq_true_iff, some_true_mem_matches_iff]
        exact ⟨hv, hmatch⟩
      · rw [if_neg hmatch]
        -- without a match a NULL among the candidates leaves the answer open
        by_cases hnull : ws.any Value.isNull = true
        · obtain ⟨w, hw, hwNull⟩ := List.any_eq_true.1 hnull
          have hunmatched : some true ∉ ws.map v.matches? := fun h => hmatch (some_true_mem_matches_iff.1 h).2
          rw [if_pos hnull, anyOf?_matches_of_isNull hunmatched hw (.inr hwNull)]
        · rw [if_neg hnull, eq_comm, anyOf?_eq_false_iff, List.forall_mem_map]
          intro w hw
          simp only [List.any_eq_true, not_exists, not_and, Bool.not_eq_true, Bool.and_eq_true, Bool.not_eq_true']
            at hmatch hnull
          exact Value.matches?_eq_some_iff.2 ⟨hv, hnull w hw, hmatch w hw (hnull w hw)⟩

end

namespace Expr

variable {ctx : Context} {record : Record}

/-! ### `IN` -/

theorem eval_among (negate : Bool) (operand : Expr) (candidates : List Expr) :
    (among negate operand candidates).eval ctx record =
      operand.eval ctx record >>= fun v =>
        (evalAll ctx record candidates).map fun ws => (Value.ofTruth (anyOf? (ws.map v.matches?))).invertIf negate := by
  rw [eval]
  simp only [isAmong?_eq_anyOf?]
  cases operand.eval ctx record with
  | error error => rfl
  | ok v => cases evalAll ctx record candidates <;> rfl

variable {operand : Expr} {candidates : List Expr} {negate : Bool}

theorem eval_among_eq_error_iff {error : EvalError} :
    (among negate operand candidates).eval ctx record = .error error ↔
      FailsFirst ctx record (operand :: candidates) error := by
  rw [← evalAll_eq_error_iff, evalAll_cons, eval_among, bind_eq_error, bind_eq_error]
  simp only [map_eq_error]

theorem eval_among_eq_ok_iff {result : Value} :
    (among negate operand candidates).eval ctx record = .ok result ↔
      ∃ (v : Value) (ws : List Value), operand.eval ctx record = .ok v ∧ candidates.map (eval ctx record) = ws.map .ok ∧
        (Value.ofTruth (anyOf? (ws.map v.matches?))).invertIf negate = result := by
  rw [eval_among]
  constructor
  · intro h
    obtain ⟨v, hv, h⟩ := bind_eq_ok.1 h
    obtain ⟨ws, hws, hresult⟩ := map_eq_ok.1 h
    exact ⟨v, ws, hv, evalAll_eq_ok_iff.1 hws, hresult⟩
  · rintro ⟨v, ws, hv, hws, rfl⟩
    rw [hv, evalAll_eq_ok_iff.2 hws]
    rfl

/-- Candidates may be reordered and repeated. -/
theorem eval_among_of_mem_iff {others : List Expr} (hmem : ∀ e, e ∈ candidates ↔ e ∈ others) {result : Value}
    (h : (among negate operand candidates).eval ctx record = .ok result) :
    (among negate operand others).eval ctx record = .ok result := by
  obtain ⟨v, ws, hv, hws, rfl⟩ := eval_among_eq_ok_iff.1 h
  cases hothers : evalAll ctx record others with
  | error error =>
    obtain ⟨e, he, error', herror⟩ := exists_failsFirst_iff.1 ⟨error, evalAll_eq_error_iff.1 hothers⟩
    have hfailed : Except.error error' ∈ candidates.map (eval ctx record) :=
      List.mem_map.2 ⟨e, (hmem e).2 he, herror⟩
    rw [hws] at hfailed
    obtain ⟨w, -, hw⟩ := List.mem_map.1 hfailed
    cases hw
  | ok ws' =>
    have hws' := evalAll_eq_ok_iff.1 hothers
    have hvalues (w : Value) : w ∈ ws ↔ w ∈ ws' := by
      simp only [mem_values_iff hws, mem_values_iff hws', hmem]
    refine eval_among_eq_ok_iff.2 ⟨v, ws', hv, hws', ?_⟩
    rw [anyOf?_congr]
    intro truth
    simp only [List.mem_map, hvalues]

/-- Where `IN` is true, one of the candidates is equal to the operand under `=`, which also takes collations into
account. -/
theorem exists_equal_of_eval_among (h : (among false operand candidates).eval ctx record = .ok (.boolean true)) :
    ∃ c ∈ candidates, (binary .equal false operand c).eval ctx record = .ok (.boolean true) := by
  obtain ⟨v, ws, hv, hws, htrue⟩ := eval_among_eq_ok_iff.1 h
  have hany : anyOf? (ws.map v.matches?) = some true := Value.ofTruth_injective htrue
  obtain ⟨w, hw, hmatch⟩ := List.mem_map.1 (anyOf?_eq_true_iff.1 hany)
  obtain ⟨c, hc, hcw⟩ := (mem_values_iff hws).1 hw
  exact ⟨c, hc, eval_equal hv hcw fun collation => equality?_of_matches? collation hmatch⟩

/-- **`IN` is a disjunction of equalities.** It fails where the operand or a candidate fails, with the first error among
them; so does `NOT IN`. Where all of them have values, it is true if a candidate is equal to the operand, else unknown if
there is a candidate and one of the values is NULL, else false, and `NOT IN` is its negation; so neither order nor
repetition of the candidates matters. A candidate that makes it true is equal to the operand under `=`, since values
that are equal part by part are equal for every collation. -/
theorem eval_membership (ctx : Context) (record : Record) (operand : Expr) (candidates : List Expr) :
    (∀ negate error, (among negate operand candidates).eval ctx record = .error error ↔
      FailsFirst ctx record (operand :: candidates) error) ∧
    (∀ negate, (∃ error, (among negate operand candidates).eval ctx record = .error error) ↔
      ∃ e ∈ operand :: candidates, ∃ error, e.eval ctx record = .error error) ∧
    (∀ (v : Value) (ws : List Value), operand.eval ctx record = .ok v → candidates.map (eval ctx record) = ws.map .ok →
      (among false operand candidates).eval ctx record = .ok (.ofTruth (anyOf? (ws.map v.matches?))) ∧
      (among true operand candidates).eval ctx record = .ok (.ofTruth (invert? (anyOf? (ws.map v.matches?))))) ∧
    (∀ negate others result, (∀ e, e ∈ candidates ↔ e ∈ others) →
      ((among negate operand candidates).eval ctx record = .ok result ↔
        (among negate operand others).eval ctx record = .ok result)) ∧
    ((among false operand candidates).eval ctx record = .ok (.boolean true) →
      ∃ c ∈ candidates, (binary .equal false operand c).eval ctx record = .ok (.boolean true)) ∧
    ∀ c v w, Value.equals v w = true → Value.compareWith c v w = .eq := by
  refine ⟨fun _ _ => eval_among_eq_error_iff, ?_, ?_, ?_, exists_equal_of_eval_among,
    fun c _ _ => Value.compareWith_of_equals c⟩
  · intro negate
    simp only [eval_among_eq_error_iff, exists_failsFirst_iff]
  · intro v ws hv hws
    refine ⟨eval_among_eq_ok_iff.2 ⟨v, ws, hv, hws, rfl⟩, eval_among_eq_ok_iff.2 ⟨v, ws, hv, hws, ?_⟩⟩
    exact Value.invert_ofTruth _
  · intro negate others result hmem
    constructor
    · exact eval_among_of_mem_iff hmem
    · exact eval_among_of_mem_iff fun e => (hmem e).symm

/-- A match after a NULL, in either order of the candidates; and a field that the record does not have after a match. -/
theorem eval_membership_matched :
    (among false (.literal (.integer 3)) [.literal .null, .literal (.integer 3)]).eval default [] = .ok (.boolean true) ∧
      (among false (.literal (.integer 3)) [.literal (.integer 3), .literal .null]).eval default [] =
        .ok (.boolean true) ∧
      (among false (.literal (.integer 3)) [.literal (.integer 3), .field "missing"]).eval default [] =
        .error (.missingField "missing") := by
  obtain ⟨-, -, hvalue, hmem, -, -⟩ :=
    eval_membership default [] (.literal (.integer 3)) [.literal .null, .literal (.integer 3)]
  have hmatched : (among false (.literal (.integer 3)) [.literal .null, .literal (.integer 3)]).eval default [] =
      .ok (.boolean true) := by
    rw [(hvalue (.integer 3) [.null, .integer 3] rfl rfl).1]
    rfl
  refine ⟨hmatched, (hmem false _ _ fun e => ?_).1 hmatched, ?_⟩
  · rw [List.mem_pair, List.mem_pair, or_comm]
  · rw [(eval_membership default [] (.literal (.integer 3)) [.literal (.integer 3), .field "missing"]).1]
    exact .there rfl (.there rfl (.here rfl))

end Expr

end SqlFormula
