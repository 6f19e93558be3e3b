import SqlFormula.Proofs.Syntax.Nodes

/-!
# Paths through expressions

Each node of an expression has a weight, and the weights on the way from the top to a leaf add up. With a weight of one
for each node the greatest sum is the height of the expression.

## Main definitions

- `Expr.pathSum` — the greatest sum of weights on a path
- `Expr.height` — the number of nodes on a longest path
- `Expr.postfixes` — the greatest number of ranges, lists of candidates, tests for NULL and collations on a path
-/

namespace SqlFormula

namespace Expr

section

variable (weight : Expr → Nat)

mutual

/-- The greatest sum of weights on a path from the top to a leaf. -/
def pathSum : Expr → Nat
  | .literal v => weight (.literal v)
  | .field path => weight (.field path)
  | .unary op operand => weight (.unary op operand) + pathSum operand
  | .binary op negate left right => weight (.binary op negate left right) + max (pathSum left) (pathSum right)
  | .call function args => weight (.call function args) + pathSums args
  | .caseWhen clauses otherwise =>
    weight (.caseWhen clauses otherwise) + max (clauseSums clauses) (pathSum otherwise)
  | .caseOf operand clauses otherwise =>
    weight (.caseOf operand clauses otherwise) + max (pathSum operand) (max (clauseSums clauses) (pathSum otherwise))
  | .between negate operand low high =>
    weight (.between negate operand low high) + max (pathSum operand) (max (pathSum low) (pathSum high))
  | .among negate operand candidates =>
    weight (.among negate operand candidates) + max (pathSum operand) (pathSums candidates)
  | .cast operand target => weight (.cast operand target) + pathSum operand
  | .collate operand collation => weight (.collate operand collation) + pathSum operand

/-- The greatest sum for some expressions. -/
def pathSums : List Expr → Nat
  | [] => 0
  | e :: es => max (pathSum e) (pathSums es)

/-- The greatest sum for the parts of clauses. -/
def clauseSums : List (Expr × Expr) → Nat
  | [] => 0
  | (condition, result) :: rest => max (max (pathSum condition) (pathSum result)) (clauseSums rest)

end

variable {weight}

theorem pathSums_le_iff {es : List Expr} {n : Nat} :
    pathSums weight es ≤ n ↔ ∀ e ∈ es, e.pathSum weight ≤ n := by
  induction es with
  | nil => simp [pathSums]
  | cons e es ih => rw [pathSums, Nat.max_le, ih, List.forall_mem_cons]

theorem clauseSums_le_iff {clauses : List (Expr × Expr)} {n : Nat} :
    clauseSums weight clauses ≤ n ↔ ∀ e ∈ clauseParts clauses, e.pathSum weight ≤ n := by
  rw [forall_mem_clauseParts]
  induction clauses with
  | nil => simp [clauseSums]
  | cons c rest ih => rw [clauseSums, Nat.max_le, Nat.max_le, ih, List.forall_mem_cons]

theorem pathSum_le_pathSums {es : List Expr} {e : Expr} (h : e ∈ es) : e.pathSum weight ≤ pathSums weight es :=
  pathSums_le_iff.1 (Nat.le_refl _) e h

theorem pathSum_le_clauseSums {clauses : List (Expr × Expr)} {c : Expr × Expr} (h : c ∈ clauses) :
    c.1.pathSum weight ≤ clauseSums weight clauses ∧ c.2.pathSum weight ≤ clauseSums weight clauses :=
  forall_mem_clauseParts.1 (clauseSums_le_iff.1 (Nat.le_refl _)) c h

/-- A path through a node goes on through one of its parts. -/
theorem pathSum_le_iff {e : Expr} {n : Nat} :
    e.pathSum weight ≤ weight e + n ↔ ∀ p ∈ e.parts, p.pathSum weight ≤ n := by
  cases e <;>
    simp only [pathSum, parts, Nat.add_le_add_iff_left, Nat.max_le, List.forall_mem_cons, List.forall_mem_append,
      List.not_mem_nil, false_imp_iff, implies_true, and_true, pathSums_le_iff, clauseSums_le_iff, Nat.le_add_right]

theorem pathSum_le_of_mem_parts {e p : Expr} (hp : p ∈ e.parts) : p.pathSum weight ≤ e.pathSum weight := by
  have hweight : weight e ≤ e.pathSum weight := by cases e <;> rw [pathSum] <;> omega
  have hparts : e.pathSum weight ≤ weight e + (e.pathSum weight - weight e) := by omega
  have hpart := pathSum_le_iff.1 hparts p hp
  omega

end

/-- The number of nodes on a longest path. -/
def height (e : Expr) : Nat :=
  e.pathSum fun _ => 1

theorem height_pos (e : Expr) : 0 < e.height := by
  cases e <;> rw [height, pathSum] <;> omega

/-- A range, a list of candidates, a test for NULL or a collation: what can follow an operand without an operand of its
own after it. -/
def isPostfix : Expr → Bool
  | .between .. | .among .. | .collate .. => true
  | .binary .is _ _ (.literal .null) => true
  | _ => false

/-- The greatest number of such nodes on a path. -/
def postfixes (e : Expr) : Nat :=
  e.pathSum fun e => if e.isPostfix then 1 else 0

end Expr

end SqlFormula
