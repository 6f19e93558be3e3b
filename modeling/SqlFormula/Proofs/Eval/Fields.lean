import Mathlib
import SqlFormula.Eval
import SqlFormula.Proofs.Syntax.Nodes

/-!
# What evaluation reads of a record

Evaluation reaches a record only at the fields that an expression names. In two records in which these fields are the
same, or are missing alike, an expression has the same value or the same error.

## Main statements

- `Expr.evalAll_congr` and its siblings — lists of expressions that are evaluated alike one by one
- `Expr.eval_eq_of_fields` — an expression depends on nothing in a record but the fields that it names
-/

namespace SqlFormula

namespace Expr

section

variable {ctx : Context} {r s : Record}

/-! ### Expressions one after the other -/

theorem evalAll_congr {es : List Expr} (h : ∀ e ∈ es, e.eval ctx r = e.eval ctx s) :
    evalAll ctx r es = evalAll ctx s es := by
  induction es with
  | nil => rfl
  | cons e es ih =>
    obtain ⟨he, hes⟩ := List.forall_mem_cons.1 h
    rw [evalAll, evalAll, he, ih hes]

theorem evalFirst_congr {es : List Expr} (h : ∀ e ∈ es, e.eval ctx r = e.eval ctx s) :
    evalFirst ctx r es = evalFirst ctx s es := by
  cases es with
  | nil => rfl
  | cons e es =>
    rw [evalFirst, evalFirst]
    exact h e List.mem_cons_self

theorem firstNonNull_congr {es : List Expr} (h : ∀ e ∈ es, e.eval ctx r = e.eval ctx s) :
    firstNonNull ctx r es = firstNonNull ctx s es := by
  induction es with
  | nil => rfl
  | cons e es ih =>
    obtain ⟨he, hes⟩ := List.forall_mem_cons.1 h
    rw [firstNonNull, firstNonNull, he, ih hes]

theorem evalAt_congr {es : List Expr} (h : ∀ e ∈ es, e.eval ctx r = e.eval ctx s) (f : Builtin) (index : Nat) :
    evalAt ctx r f index es = evalAt ctx s f index es := by
  induction es generalizing index with
  | nil => rfl
  | cons e es ih =>
    obtain ⟨he, hes⟩ := List.forall_mem_cons.1 h
    rw [evalAt, evalAt, he, ih hes]

theorem evalClauses_congr {isChosen : Expr → Value → Bool} {clauses : List (Expr × Expr)}
    (h : ∀ e ∈ clauseParts clauses, e.eval ctx r = e.eval ctx s) :
    evalClauses ctx r isChosen clauses = evalClauses ctx s isChosen clauses := by
  induction clauses with
  | nil => rfl
  | cons c rest ih =>
    obtain ⟨condition, result⟩ := c
    obtain ⟨⟨hcondition, hresult⟩, hrest⟩ := forall_mem_clauseParts_cons.1 h
    rw [evalClauses, evalClauses, hcondition, hresult, ih hrest]

/-! ### Calls -/

/-- A call depends on its arguments, whichever of them it evaluates. -/
theorem eval_call_congr {f : Builtin} {args : List Expr} (h : ∀ e ∈ args, e.eval ctx r = e.eval ctx s) :
    (call f args).eval ctx r = (call f args).eval ctx s := by
  rw [eval.eq_def, eval.eq_def ctx s]
  dsimp only
  rw [firstNonNull_congr h, evalFirst_congr h, evalAll_congr h]
  simp only [evalAt_congr h]

end

/-- **What a formula depends on**: in two records that agree on the fields it names, an expression has the same value or
the same error. -/
theorem eval_eq_of_fields {ctx : Context} {r s : Record} {e : Expr}
    (h : ∀ path ∈ e.fields, r.field path = s.field path) : e.eval ctx r = e.eval ctx s := by
  induction e using Expr.induction with
  | node e ih =>
    -- the fields of the parts are among those of the whole
    have hparts (p : Expr) (hp : p ∈ e.parts) : p.eval ctx r = p.eval ctx s :=
      ih p hp fun path hpath => h path (mem_fields_of_mem_parts hp hpath)
    cases e with
    | literal v => rfl
    | field path => exact h path (mem_fields.2 (mem_nodes.2 (.inl rfl)))
    | unary op operand => rw [eval, eval, hparts operand (by simp [parts])]
    | binary op negate left right =>
      rw [eval, eval, hparts left (by simp [parts]), hparts right (by simp [parts])]
    | call f args => exact eval_call_congr hparts
    | caseWhen clauses otherwise =>
      obtain ⟨hclauses, hotherwise⟩ := List.forall_mem_append.1 hparts
      rw [eval, eval, evalClauses_congr hclauses, hotherwise otherwise (by simp)]
    | caseOf operand clauses otherwise =>
      obtain ⟨hoperand, hrest⟩ := List.forall_mem_cons.1 hparts
      obtain ⟨hclauses, hotherwise⟩ := List.forall_mem_append.1 hrest
      rw [eval, eval, hoperand, hotherwise otherwise (by simp)]
      simp only [evalClauses_congr hclauses]
    | between negate operand low high =>
      rw [eval, eval, hparts operand (by simp [parts]), hparts low (by simp [parts]), hparts high (by simp [parts])]
    | among negate operand candidates =>
      obtain ⟨hoperand, hcandidates⟩ := List.forall_mem_cons.1 hparts
      rw [eval, eval, hoperand, evalAll_congr hcandidates]
    | cast operand target => rw [eval, eval, hparts operand (by simp [parts])]
    | collate operand collation =>
      rw [eval, eval]
      exact hparts operand (by simp [parts])

/-- The postage for a city, else the street. -/
def postage : Expr :=
  .caseWhen [(.binary .equal false (.field "address.city") (.literal (.text "Lyon")), .literal (.integer 3))]
    (.field "street")

/-- A city at the end of a path and the same city under a key with a dot are the same field. The street is missing in
both rows, and the rest of them is of no account. -/
theorem eval_postage_eq :
    (∀ path ∈ postage.fields,
      Record.field [("address", .object [("city", .text "Lyon")]), ("zip", .integer 69001)] path =
        Record.field [("address.city", .text "Lyon"), ("name", .null)] path) ∧
    postage.eval default [("address", .object [("city", .text "Lyon")]), ("zip", .integer 69001)] =
      postage.eval default [("address.city", .text "Lyon"), ("name", .null)] := by
  have hfields : ∀ path ∈ postage.fields,
      Record.field [("address", .object [("city", .text "Lyon")]), ("zip", .integer 69001)] path =
        Record.field [("address.city", .text "Lyon"), ("name", .null)] path := by
    have hnames : postage.fields = ["address.city", "street"] := by cbv
    rw [hnames]
    exact List.forall_mem_cons.2 ⟨by cbv, List.forall_mem_singleton.2 (by cbv)⟩
  exact ⟨hfields, eval_eq_of_fields hfields⟩

end Expr

end SqlFormula
