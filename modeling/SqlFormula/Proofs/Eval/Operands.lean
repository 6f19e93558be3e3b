import SqlFormula.Eval
import SqlFormula.Proofs.Outcome
import SqlFormula.Proofs.Value.Logic

/-!
# How operands are evaluated

The left operand of a binary operator comes first. It may settle the result, as false does for `AND` and true for `OR`;
else the right operand is evaluated, and the operator is applied to both values. A list of operands is evaluated from the
first to the last. Whatever fails first ends the evaluation.

## Main definitions

- `Expr.FailsFirst` — the error of some expressions that are evaluated one after another

## Main statements

- `Expr.eval_binary_left_error`, `Expr.eval_binary_decided`, `Expr.eval_binary_right_error`, `Expr.eval_binary_values` —
  the four ways in which an operator is evaluated
- `Expr.evalAll_eq_ok_iff`, `Expr.evalAll_eq_error_iff` — the outcomes of a list of expressions
-/

namespace SqlFormula

/-! ### Binary operators -/

/-- Only the logical operators are settled by their left operand. -/
theorem decided?_eq_none {op : BinaryOperator} (hand : op ≠ .and) (hor : op ≠ .or) (v : Value) :
    decided? op v = none := by
  rw [decided?]
  · intro h
    exact absurd h hand
  · intro h
    exact absurd h hor

theorem decided?_and_eq_some_iff {v result : Value} :
    decided? .and v = some result ↔ v.truth? = some false ∧ result = .boolean false := by
  rw [decided?.eq_def]
  rcases v.truth? with _ | _ | _ <;> simp [eq_comm]

theorem decided?_or_eq_some_iff {v result : Value} :
    decided? .or v = some result ↔ v.truth? = some true ∧ result = .boolean true := by
  rw [decided?.eq_def]
  rcases v.truth? with _ | _ | _ <;> simp [eq_comm]

namespace Expr

variable {ctx : Context} {record : Record} {op : BinaryOperator} {left right : Expr} {v w : Value} {error : EvalError}

theorem eval_binary_left_error (hleft : left.eval ctx record = .error error) (negate : Bool) :
    (binary op negate left right).eval ctx record = .error error := by
  rw [eval, hleft]
  rfl

theorem eval_binary_decided {result : Value} (hleft : left.eval ctx record = .ok v)
    (hdecided : decided? op v = some result) : (binary op false left right).eval ctx record = .ok result := by
  rw [eval, hleft]
  simp only [bind, Except.bind, hdecided]
  rfl

theorem eval_binary_right_error (hleft : left.eval ctx record = .ok v) (hdecided : decided? op v = none)
    (hright : right.eval ctx record = .error error) (negate : Bool) :
    (binary op negate left right).eval ctx record = .error error := by
  rw [eval, hleft, hright]
  simp only [bind, Except.bind, hdecided]

theorem eval_binary_values (hleft : left.eval ctx record = .ok v) (hdecided : decided? op v = none)
    (hright : right.eval ctx record = .ok w) :
    (binary op false left right).eval ctx record = combine ctx.options op (collationOf [left, right]) v w := by
  rw [eval, hleft, hright]
  simp only [bind, Except.bind, hdecided]
  cases combine ctx.options op (collationOf [left, right]) v w <;> rfl

/-- Values whose equality is the same under each collation are compared alike, whatever collations the operands carry. -/
theorem eval_equal (hleft : left.eval ctx record = .ok v) (hright : right.eval ctx record = .ok w) {truth : Option Bool}
    (hequal : ∀ c, equality? c v w = truth) :
    (binary .equal false left right).eval ctx record = .ok (.ofTruth truth) := by
  rw [eval_binary_values hleft (decided?_eq_none (by decide) (by decide) v) hright, combine, hequal]

/-! ### Lists of operands -/

variable {es : List Expr}

theorem evalAll_cons (e : Expr) (es : List Expr) :
    evalAll ctx record (e :: es) = e.eval ctx record >>= fun v => (evalAll ctx record es).map (v :: ·) := by
  rw [evalAll]
  cases e.eval ctx record with
  | error error => rfl
  | ok v => cases evalAll ctx record es <;> rfl

theorem evalAll_eq_ok_iff {vs : List Value} :
    evalAll ctx record es = .ok vs ↔ es.map (eval ctx record) = vs.map .ok := by
  induction es generalizing vs with
  | nil => simp [evalAll, eq_comm]
  | cons e es ih =>
    rw [evalAll_cons, bind_eq_ok, List.map_cons]
    simp only [map_eq_ok, ih]
    constructor
    · rintro ⟨v, hv, ws, hws, rfl⟩
      rw [hv, hws, List.map_cons]
    · intro h
      obtain ⟨v, ws, rfl, hv, hws⟩ := List.map_eq_cons_iff.1 h.symm
      exact ⟨v, hv.symm, ws, hws.symm, rfl⟩

theorem mem_values_iff {vs : List Value} (h : es.map (eval ctx record) = vs.map .ok) {v : Value} :
    v ∈ vs ↔ ∃ e ∈ es, e.eval ctx record = .ok v := by
  rw [← List.mem_map, h]
  constructor
  · exact List.mem_map_of_mem
  · intro hok
    obtain ⟨w, hw, ⟨⟩⟩ := List.mem_map.1 hok
    exact hw

theorem length_evalAll {vs : List Value} (h : evalAll ctx record es = .ok vs) : vs.length = es.length := by
  have hlength := congrArg List.length (evalAll_eq_ok_iff.1 h)
  rw [List.length_map, List.length_map] at hlength
  exact hlength.symm

/-- The first of some expressions that has no value fails with an error. -/
inductive FailsFirst (ctx : Context) (record : Record) : List Expr → EvalError → Prop
  | here {e : Expr} {es : List Expr} {error : EvalError} (he : e.eval ctx record = .error error) :
    FailsFirst ctx record (e :: es) error
  | there {e : Expr} {es : List Expr} {v : Value} {error : EvalError} (hv : e.eval ctx record = .ok v)
    (hes : FailsFirst ctx record es error) : FailsFirst ctx record (e :: es) error

theorem evalAll_eq_error_iff {error : EvalError} :
    evalAll ctx record es = .error error ↔ FailsFirst ctx record es error := by
  induction es with
  | nil => exact ⟨nofun, nofun⟩
  | cons e es ih =>
    rw [evalAll_cons, bind_eq_error]
    simp only [map_eq_error, ih]
    constructor
    · rintro (he | ⟨v, hv, hes⟩)
      · exact .here he
      · exact .there hv hes
    · rintro (he | ⟨hv, hes⟩)
      · exact .inl he
      · exact .inr ⟨_, hv, hes⟩

theorem exists_failsFirst_iff :
    (∃ error, FailsFirst ctx record es error) ↔ ∃ e ∈ es, ∃ error, e.eval ctx record = .error error := by
  constructor
  · rintro ⟨error, h⟩
    induction h with
    | here he => exact ⟨_, List.mem_cons_self, _, he⟩
    | there he hes ih =>
      obtain ⟨d, hd, herror⟩ := ih
      exact ⟨d, List.mem_cons_of_mem _ hd, herror⟩
  · rintro ⟨e, he, error, herror⟩
    induction es with
    | nil => cases he
    | cons d es ih =>
      cases hd : d.eval ctx record with
      | error error' => exact ⟨error', .here hd⟩
      | ok v =>
        obtain rfl | he := List.mem_cons.1 he
        · cases hd.symm.trans herror
        · obtain ⟨error', h⟩ := ih he
          exact ⟨error', .there hd h⟩

end Expr

end SqlFormula
