import SqlFormula.Syntax.Expr

/-!
# The nodes of expressions

An expression is a node over its parts, and these are expressions again. What is said of every node is said of the
expression with everything in it.

The types of syntax trees allow more than the grammar does: literals of any kind, opposites of any operator, and cases
without clauses. Those who take trees apart rely on what the grammar adds.

## Main definitions

- `Expr.parts` — the expressions from which a node is made
- `Expr.nodes` — all nodes of an expression, the topmost first
- `Expr.fields` — the fields that an expression names
- `Value.HasLiteral` — the values that are written as literals
- `Expr.WellFormed` — every node of an expression is one that the grammar makes

## Main statements

- `Expr.induction` — what passes from the parts of a node to the node holds of every expression
- `Expr.mem_nodes` — a node is the topmost one, or a node of a part
-/

namespace SqlFormula

/-- The values that are written as literals: none of dates and times, arrays and objects. -/
def Value.HasLiteral : Value → Prop
  | .null | .boolean _ | .integer _ | .float _ | .text _ | .blob _ => True
  | .dateTime _ | .array _ | .object _ => False

namespace Expr

/-- The conditions and the results of clauses. -/
def clauseParts (clauses : List (Expr × Expr)) : List Expr :=
  clauses.flatMap fun c => [c.1, c.2]

/-- The expressions from which a node is made. -/
def parts : Expr → List Expr
  | .literal _ | .field _ => []
  | .unary _ operand => [operand]
  | .binary _ _ left right => [left, right]
  | .call _ args => args
  | .caseWhen clauses otherwise => clauseParts clauses ++ [otherwise]
  | .caseOf operand clauses otherwise => operand :: (clauseParts clauses ++ [otherwise])
  | .between _ operand low high => [operand, low, high]
  | .among _ operand candidates => operand :: candidates
  | .cast operand _ => [operand]
  | .collate operand _ => [operand]

theorem mem_clauseParts {clauses : List (Expr × Expr)} {e : Expr} :
    e ∈ clauseParts clauses ↔ ∃ c ∈ clauses, e = c.1 ∨ e = c.2 := by
  simp [clauseParts]

theorem forall_mem_clauseParts {clauses : List (Expr × Expr)} {P : Expr → Prop} :
    (∀ e ∈ clauseParts clauses, P e) ↔ ∀ c ∈ clauses, P c.1 ∧ P c.2 := by
  rw [clauseParts, List.forall_mem_flatMap]
  simp only [List.forall_mem_cons, List.not_mem_nil, false_imp_iff, implies_true, and_true]

theorem forall_mem_clauseParts_cons {condition result : Expr} {clauses : List (Expr × Expr)} {P : Expr → Prop} :
    (∀ e ∈ clauseParts ((condition, result) :: clauses), P e) ↔
      (P condition ∧ P result) ∧ ∀ e ∈ clauseParts clauses, P e := by
  rw [forall_mem_clauseParts, List.forall_mem_cons, forall_mem_clauseParts]

theorem sizeOf_lt_of_mem_clauseParts {clauses : List (Expr × Expr)} {e : Expr} (h : e ∈ clauseParts clauses) :
    sizeOf e < sizeOf clauses := by
  obtain ⟨⟨condition, result⟩, hc, he⟩ := mem_clauseParts.1 h
  have hclause := List.sizeOf_lt_of_mem hc
  simp only [Prod.mk.sizeOf_spec] at hclause
  obtain rfl | rfl := he <;> omega

theorem sizeOf_lt_of_mem_branches {clauses : List (Expr × Expr)} {otherwise p : Expr}
    (h : p ∈ clauseParts clauses ++ [otherwise]) : sizeOf p < 1 + sizeOf clauses + sizeOf otherwise := by
  obtain h | h := List.mem_append.1 h
  · have := sizeOf_lt_of_mem_clauseParts h
    omega
  · obtain rfl := List.mem_singleton.1 h
    omega

theorem sizeOf_lt_of_mem_parts {e p : Expr} (h : p ∈ e.parts) : sizeOf p < sizeOf e := by
  cases e with
  | literal => nomatch h
  | field => nomatch h
  | call f args =>
    have := List.sizeOf_lt_of_mem (show p ∈ args from h)
    simp only [call.sizeOf_spec]
    omega
  | caseWhen clauses otherwise =>
    simp only [caseWhen.sizeOf_spec]
    exact sizeOf_lt_of_mem_branches h
  | caseOf operand clauses otherwise =>
    simp only [caseOf.sizeOf_spec]
    obtain rfl | h := List.mem_cons.1 h
    · omega
    · have := sizeOf_lt_of_mem_branches h
      omega
  | among negate operand candidates =>
    simp only [among.sizeOf_spec]
    obtain rfl | h := List.mem_cons.1 h
    · omega
    · have := List.sizeOf_lt_of_mem h
      omega
  | unary | binary | between | cast | collate =>
    simp only [parts, List.mem_cons, List.not_mem_nil, or_false] at h
    simp only [unary.sizeOf_spec, binary.sizeOf_spec, between.sizeOf_spec, cast.sizeOf_spec, collate.sizeOf_spec]
    rcases h with rfl | rfl | rfl <;> omega

/-- What passes from the parts of a node to the node holds of every expression. -/
@[elab_as_elim]
theorem induction {P : Expr → Prop} (node : ∀ e : Expr, (∀ p ∈ e.parts, P p) → P e) (e : Expr) : P e :=
  node e fun p _hp => induction node p
termination_by sizeOf e
decreasing_by exact sizeOf_lt_of_mem_parts _hp

/-! ### Nodes -/

mutual

/-- All nodes of an expression, the topmost first. -/
def nodes : Expr → List Expr
  | .literal v => [.literal v]
  | .field path => [.field path]
  | .unary op operand => .unary op operand :: nodes operand
  | .binary op negate left right => .binary op negate left right :: (nodes left ++ nodes right)
  | .call function args => .call function args :: nodesOfAll args
  | .caseWhen clauses otherwise => .caseWhen clauses otherwise :: (nodesOfClauses clauses ++ nodes otherwise)
  | .caseOf operand clauses otherwise =>
    .caseOf operand clauses otherwise :: (nodes operand ++ (nodesOfClauses clauses ++ nodes otherwise))
  | .between negate operand low high =>
    .between negate operand low high :: (nodes operand ++ (nodes low ++ nodes high))
  | .among negate operand candidates => .among negate operand candidates :: (nodes operand ++ nodesOfAll candidates)
  | .cast operand target => .cast operand target :: nodes operand
  | .collate operand collation => .collate operand collation :: nodes operand

/-- The nodes of some expressions. -/
def nodesOfAll : List Expr → List Expr
  | [] => []
  | e :: es => nodes e ++ nodesOfAll es

/-- The nodes of the parts of clauses. -/
def nodesOfClauses : List (Expr × Expr) → List Expr
  | [] => []
  | (condition, result) :: rest => nodes condition ++ (nodes result ++ nodesOfClauses rest)

end

theorem nodesOfAll_eq (es : List Expr) : nodesOfAll es = es.flatMap nodes := by
  induction es with
  | nil => rfl
  | cons e es ih => rw [nodesOfAll, ih, List.flatMap_cons]

theorem nodesOfClauses_eq (clauses : List (Expr × Expr)) :
    nodesOfClauses clauses = (clauseParts clauses).flatMap nodes := by
  induction clauses with
  | nil => rfl
  | cons c rest ih =>
    rw [nodesOfClauses, ih, clauseParts, clauseParts, List.flatMap_cons, List.flatMap_append]
    simp only [List.flatMap_cons, List.flatMap_nil, List.append_nil, List.append_assoc]

theorem nodes_eq (e : Expr) : e.nodes = e :: e.parts.flatMap nodes := by
  cases e <;>
    simp only [nodes, parts, nodesOfAll_eq, nodesOfClauses_eq, List.flatMap_cons, List.flatMap_append, List.flatMap_nil,
      List.append_nil]

/-- A node is the topmost one, or a node of a part. -/
theorem mem_nodes {n e : Expr} : n ∈ e.nodes ↔ n = e ∨ ∃ p ∈ e.parts, n ∈ p.nodes := by
  rw [nodes_eq, List.mem_cons, List.mem_flatMap]

/-- What holds of all nodes holds of the topmost one, and of all nodes of the parts. -/
theorem forall_mem_nodes {P : Expr → Prop} {e : Expr} :
    (∀ n ∈ e.nodes, P n) ↔ P e ∧ ∀ p ∈ e.parts, ∀ n ∈ p.nodes, P n := by
  rw [nodes_eq, List.forall_mem_cons, List.forall_mem_flatMap]

/-! ### Fields -/

/-- The path of a field. -/
def fieldPath? : Expr → Option String
  | .field path => some path
  | _ => none

/-- The fields that an expression names, as often as it names them. -/
def fields (e : Expr) : List String :=
  e.nodes.filterMap fieldPath?

theorem mem_fields {path : String} {e : Expr} : path ∈ e.fields ↔ .field path ∈ e.nodes := by
  rw [fields, List.mem_filterMap]
  constructor
  · rintro ⟨n, hn, hpath⟩
    cases n with
    | field p =>
      obtain rfl := Option.some.inj hpath
      exact hn
    | _ => nomatch hpath
  · exact fun h => ⟨_, h, rfl⟩

theorem mem_fields_of_mem_parts {path : String} {e p : Expr} (hp : p ∈ e.parts) (h : path ∈ p.fields) :
    path ∈ e.fields :=
  mem_fields.2 (mem_nodes.2 (.inr ⟨p, hp, mem_fields.1 h⟩))

/-! ### Nodes of the grammar -/

/-- A node that the grammar makes, its parts apart. Only `IS` and the pattern operators have opposites. That a case has an
`ELSE` is in its type. -/
def IsProper : Expr → Prop
  | .literal v => v.HasLiteral
  | .binary op negate _ _ => negate = true → op = .is ∨ op.isPattern = true
  | .caseWhen clauses _ | .caseOf _ clauses _ => clauses ≠ []
  | _ => True

/-- Every node of an expression is one that the grammar makes. -/
def WellFormed (e : Expr) : Prop :=
  ∀ n ∈ e.nodes, n.IsProper

theorem wellFormed_iff {e : Expr} : e.WellFormed ↔ e.IsProper ∧ ∀ p ∈ e.parts, p.WellFormed :=
  forall_mem_nodes

end Expr

end SqlFormula
