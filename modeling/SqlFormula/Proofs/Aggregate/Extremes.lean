import SqlFormula.Proofs.Aggregate.RowOrder
import SqlFormula.Proofs.Eval.Dispatch

/-!
# The least and the greatest of some values

With several arguments, `min` and `max` are applied to their values; with one argument, they gather its values over records.
Both ways go from value to value with the best one so far. So they come to the same on values that are not NULL, also where
the comparison of values of several kinds is not transitive, or finds values alike that are not the same.

## Main statements

- `mem_of_extreme?` — the best of some values is one of them
- `Aggregate.run_extreme` — what is gathered over records is the best of the values so far
- `Aggregate.eval_extreme_eq_resultOver` — the call with several arguments and the aggregate call agree
-/

namespace SqlFormula

variable {f : Builtin} {ctx : Context} {wanted : Ordering} {best v : Value} {vs : List Value}

/-! ### Several arguments -/

theorem better_eq_or (wanted : Ordering) (best v : Value) : better wanted best v = v ∨ better wanted best v = best :=
  ite_eq_or_eq _ _ _

theorem foldl_better_mem : vs.foldl (better wanted) best ∈ best :: vs := by
  induction vs generalizing best with
  | nil => exact List.mem_singleton_self best
  | cons v vs ih =>
    rw [List.foldl_cons]
    obtain heq | heq := better_eq_or wanted best v
    · rw [heq]
      exact List.mem_cons_of_mem best ih
    · rw [heq]
      exact List.cons_subset_cons best (List.subset_cons_self v vs) ih

theorem mem_of_extreme? (h : extreme? wanted vs = some v) : v ∈ vs := by
  cases vs with
  | nil => cases h
  | cons w vs =>
    obtain rfl := Option.some.inj h
    exact foldl_better_mem

/-- A call of `min` or `max` with several values gives the best of them, if none is NULL. -/
theorem Call.onValues_extreme (hf : f = .min ∨ f = .max) (hmany : 2 ≤ vs.length)
    (hpresent : ∀ v ∈ vs, v.isNull = false) (hbest : extreme? f.wanted vs = some v) :
    Call.onValues f ctx vs = .ok v := by
  have hany : vs.any Value.isNull = false := by
    rw [List.any_eq_false]
    intro v hv
    rw [hpresent v hv]
    exact Bool.false_ne_true
  have hnumbers : Call.onNumbers? f vs = some (.ok v) := by
    obtain rfl | rfl := hf <;>
      rw [Call.onNumbers?, if_pos hmany, Call.ofExtreme, hany, if_neg Bool.false_ne_true, hbest, Option.getD_some]
  have hsome : vs ≠ [] := List.ne_nil_of_length_pos (by omega)
  have hadmits : f.arity.admits vs.length = true := by
    obtain rfl | rfl := hf <;> simp [Builtin.arity, Builtin.Arity.admits, Nat.one_le_iff_ne_zero, hsome]
  have hfamily : f.family vs.length = .number := by
    obtain rfl | rfl := hf <;> exact if_neg (by omega)
  rw [Call.onValues, Builtin.checkArity, if_pos hadmits, onValues?_eq hadmits, hfamily, Family.onValues?, hnumbers]
  rfl

namespace Aggregate

variable {arg : Expr} {records : List Record}

/-! ### Many records -/

/-- A record takes the place of the best one so far if it is better, and if it is the first one. -/
theorem accumulate_extreme {record : Record} (hv : arg.eval ctx record = .ok v) (hpresent : v.isNull = false)
    (rows : Nat) (best : Option Value) :
    (ofOne f arg (.extreme none)).accumulate ctx record ⟨rows, .extreme best⟩ =
      (⟨rows + 1, .extreme (some (best.elim v (better f.wanted · v)))⟩, none) := by
  have hgather : (ofOne f arg (.extreme none)).gather ctx record (.extreme best) =
      .ok (.extreme (some (best.elim v (better f.wanted · v)))) := by
    show (arg.eval ctx record >>= fun v => _) = _
    rw [hv]
    show (if v.isNull then _ else _) = _
    rw [hpresent]
    cases best <;> rfl
  simp only [accumulate, hgather]

theorem counted_cons_of_accumulate {a : Aggregate} {t u : Tally} {record : Record}
    (h : a.accumulate ctx record t = (u, none)) (hnull : a.isNullIn ctx record = false) :
    a.counted ctx t (record :: records) = record :: a.counted ctx u records := by
  rw [counted, counts, h, hnull]
  rfl

theorem isNullIn_ofOne {record : Record} {start : Gathering} (hv : arg.eval ctx record = .ok v) :
    (ofOne f arg start).isNullIn ctx record = v.isNull := by
  have hargument : (ofOne f arg start).argumentValue ctx record = .ok v := hv
  rw [isNullIn, hargument]

/-- Over records with values that are not NULL, each value is compared with the best one so far. -/
theorem run_extreme (hrecords : records.map (arg.eval ctx) = vs.map .ok) (hpresent : ∀ v ∈ vs, v.isNull = false)
    (rows : Nat) (best : Value) :
    (ofOne f arg (.extreme none)).run ctx records ⟨rows, .extreme (some best)⟩ =
        ⟨rows + vs.length, .extreme (some (vs.foldl (better f.wanted) best))⟩ ∧
      (ofOne f arg (.extreme none)).counted ctx ⟨rows, .extreme (some best)⟩ records = records := by
  induction records generalizing vs rows best with
  | nil =>
    obtain rfl : vs = [] := by simpa using hrecords.symm
    exact ⟨rfl, rfl⟩
  | cons record records ih =>
    obtain ⟨v, vs, rfl, hv, hvs⟩ := List.map_eq_cons_iff.1 hrecords.symm
    obtain ⟨hfirst, hrest⟩ := List.forall_mem_cons.1 hpresent
    have hstep := @accumulate_extreme f ctx v arg record hv.symm hfirst rows (some best)
    obtain ⟨hrun, hcounted⟩ := ih hvs.symm hrest (rows + 1) (better f.wanted best v)
    rw [run_cons, counted_cons_of_accumulate hstep ((isNullIn_ofOne hv.symm).trans hfirst), hstep]
    refine ⟨hrun.trans ?_, congrArg (record :: ·) hcounted⟩
    rw [List.length_cons, Nat.add_assoc, Nat.add_comm 1, List.foldl_cons]

theorem resultOver_extreme_values (hsome : vs ≠ []) (hrecords : records.map (arg.eval ctx) = vs.map .ok)
    (hpresent : ∀ v ∈ vs, v.isNull = false) :
    ∃ v, extreme? f.wanted vs = some v ∧ (ofOne f arg (.extreme none)).resultOver ctx records = v ∧
      (ofOne f arg (.extreme none)).counted ctx (ofOne f arg (.extreme none)).begin records = records := by
  obtain ⟨v, vs, rfl⟩ := List.exists_cons_of_ne_nil hsome
  obtain ⟨record, records, rfl, hv, hvs⟩ := List.map_eq_cons_iff.1 hrecords
  obtain ⟨hfirst, hrest⟩ := List.forall_mem_cons.1 hpresent
  have hbegin : (ofOne f arg (.extreme none)).begin = ⟨0, .extreme none⟩ := rfl
  have hstep : (ofOne f arg (.extreme none)).accumulate ctx record ⟨0, .extreme none⟩ =
      (⟨1, .extreme (some v)⟩, none) := accumulate_extreme hv hfirst 0 none
  obtain ⟨hrun, hcounted⟩ := @run_extreme f ctx vs arg records hvs hrest 1 v
  refine ⟨_, rfl, ?_, ?_⟩
  · rw [resultOver, hbegin, run_cons, hstep, hrun]
    rfl
  · rw [hbegin, counted_cons_of_accumulate hstep ((isNullIn_ofOne hv).trans hfirst), hcounted]

/-- **`min` and `max` of several values and over several records agree.** If some arguments have the values that one
argument has in some records, in the same order and without NULL, the call with those arguments gives the result of the
aggregate call over those records, which takes in each of them. It is one of the values. -/
theorem eval_extreme_eq_resultOver (hf : f = .min ∨ f = .max) {record : Record} {args : List Expr}
    (hmany : 2 ≤ vs.length) (hpresent : ∀ v ∈ vs, v.isNull = false)
    (hargs : args.map (Expr.eval ctx record) = vs.map .ok) (hrecords : records.map (arg.eval ctx) = vs.map .ok) :
    ∃ a v, ofExpr (.call f [arg]) = .ok a ∧ v ∈ vs ∧ (Expr.call f args).eval ctx record = .ok v ∧
      a.resultOver ctx records = v ∧ a.counted ctx a.begin records = records := by
  have hsome : vs ≠ [] := List.ne_nil_of_length_pos (by omega)
  have hlength : args.length = vs.length := by simpa using congrArg List.length hargs
  obtain ⟨v, hbest, hresult, hcounted⟩ := @resultOver_extreme_values f ctx vs arg records hsome hrecords hpresent
  refine ⟨ofOne f arg (.extreme none), v, ?_, mem_of_extreme? hbest, ?_, hresult, hcounted⟩
  · obtain rfl | rfl := hf <;> rfl
  · have heager : (f.family args.length).isEager = true := by
      obtain rfl | rfl := hf <;> rw [Builtin.family, if_neg (by omega)] <;> rfl
    rw [Expr.eval_call_eager heager, Expr.evalAll_eq_ok_iff.2 hargs]
    exact Call.onValues_extreme hf hmany hpresent hbest

/-- Values that are compared in a circle: `'10'` comes before `'9'`, which is equal to 9, which comes before `'10'`. Two
values without a common type come after them. -/
def circle : List Value :=
  [.text "10", .integer 9, .text "9", .object [("a", .null)], .array [.boolean true]]

/-- The first of the two values that are equal is the least one. -/
theorem eval_extreme_eq_resultOver_circle :
    2 ≤ circle.length ∧ (∀ v ∈ circle, v.isNull = false) ∧
      (circle.map Expr.literal).map (Expr.eval default []) = circle.map .ok ∧
      (recordsOf circle).map ((Expr.field "x").eval default) = circle.map .ok ∧
      (Expr.call .min (circle.map .literal)).eval default [] = .ok (.integer 9) ∧
      (ofOne .min (.field "x") (.extreme none)).resultOver default (recordsOf circle) = .integer 9 := by
  have hpresent : ∀ v ∈ circle, v.isNull = false := by decide
  have hargs : (circle.map Expr.literal).map (Expr.eval default []) = circle.map .ok := by rfl
  have hrecords : (recordsOf circle).map ((Expr.field "x").eval default) = circle.map .ok := by rfl
  have hscalar : (Expr.call .min (circle.map .literal)).eval default [] = .ok (.integer 9) := by rfl
  obtain ⟨a, v, ha, -, hv, hresult, -⟩ := eval_extreme_eq_resultOver (.inl rfl) (by decide) hpresent hargs hrecords
  cases ha
  cases hscalar.symm.trans hv
  exact ⟨by decide, hpresent, hargs, hrecords, hscalar, hresult⟩

end Aggregate

end SqlFormula
