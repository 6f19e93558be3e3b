import SqlFormula.Proofs.Eval.Operands
import SqlFormula.Proofs.Parse.Chain

/-!
# Chains of one operator

`AND`, `OR` and `||` are associative, the evaluation of their operands included: an operand that settles the result, or
fails, does so in either grouping, and what is not evaluated in one of them does not matter in the other. So a chain of
one of them has a value that does not depend on its tree, and the parser is free to take the right side of an operator
as a whole.

## Main definitions

- `Associates` — what an operator does with the values of its operands, where that is associative
- `Expr.Nests` — the trees of one operator over some operands in their order

## Main statements

- `Associates.conjunction`, `Associates.disjunction`, `Associates.concatenation` — the operators that are associative
- `Expr.Nests.eval_eq` — the trees over the same operands are evaluated alike
- `Expr.eval_grouping` — the grouping of a chain cannot be seen
-/

namespace SqlFormula

/-! ### Joined texts -/

theorem concat_of_isNull {v w : Value} (h : v.isNull = true ∨ w.isNull = true) : concat v w = .null := by
  rw [concat, if_pos (Bool.or_eq_true_iff.2 h)]

theorem concat_of_not_isNull {v w : Value} (hv : v.isNull = false) (hw : w.isNull = false) :
    concat v w = .text (v.display ++ w.display) := by
  rw [concat, if_neg (by simp [hv, hw])]

/-- A joined text is shown as it is, so it does not matter which texts were joined first. -/
theorem concat_assoc (u v w : Value) : concat (concat u v) w = concat u (concat v w) := by
  have hnull : Value.null.isNull = true := rfl
  cases hu : u.isNull with
  | true => rw [concat_of_isNull (.inl hu), concat_of_isNull (.inl hu), concat_of_isNull (.inl hnull)]
  | false =>
    cases hw : w.isNull with
    | true => rw [concat_of_isNull (.inr hw), concat_of_isNull (.inr hw), concat_of_isNull (.inr hnull)]
    | false =>
      cases hv : v.isNull with
      | true =>
        rw [concat_of_isNull (.inr hv), concat_of_isNull (.inl hv), concat_of_isNull (.inl hnull),
          concat_of_isNull (.inr hnull)]
      | false =>
        rw [concat_of_not_isNull hu hv, concat_of_not_isNull hv hw, concat_of_not_isNull rfl hw,
          concat_of_not_isNull hu rfl]
        exact congrArg Value.text (String.append_assoc ..)

/-! ### Associative operators -/

/-- An operator that makes `f v w` of two values if the left one does not settle the result, and is associative. A result
that an operand settles has settled the operator from then on, and is the result whatever stands on the left. -/
structure Associates (op : BinaryOperator) (f : Value → Value → Value) : Prop where
  combine_eq : ∀ options c v w, combine options op c v w = .ok (f v w)
  settled : ∀ {v r}, decided? op v = some r → decided? op r = some r
  absorbs : ∀ v {w r}, decided? op w = some r → f v w = r
  undecided : ∀ {v w}, decided? op v = none → decided? op w = none → decided? op (f v w) = none
  assoc : ∀ u v w, f (f u v) w = f u (f v w)

namespace Associates

variable {op : BinaryOperator} {f : Value → Value → Value}

/-- A connective that is settled by one condition, and by nothing else. -/
theorem ofConnective {g : Option Bool → Option Bool → Option Bool} {b : Bool}
    (hcombine : ∀ options c v w, combine options op c v w = .ok (.ofTruth (g v.truth? w.truth?)))
    (hdecided : ∀ v r, decided? op v = some r ↔ v.truth? = some b ∧ r = .boolean b)
    (hsettles : ∀ {p q}, g p q = some b ↔ p = some b ∨ q = some b) (hassoc : ∀ p q r, g (g p q) r = g p (g q r)) :
    Associates op fun v w => .ofTruth (g v.truth? w.truth?) := by
  have hnone (v : Value) : decided? op v = none ↔ v.truth? ≠ some b := by
    rw [Option.eq_none_iff_forall_ne_some]
    constructor
    · intro h htruth
      exact h _ ((hdecided v _).2 ⟨htruth, rfl⟩)
    · intro htruth r hr
      exact htruth ((hdecided v r).1 hr).1
  refine ⟨hcombine, ?settled, ?absorbs, ?undecided, ?assoc⟩
  case settled =>
    intro v r h
    obtain ⟨-, rfl⟩ := (hdecided v r).1 h
    exact (hdecided _ _).2 ⟨rfl, rfl⟩
  case absorbs =>
    intro v w r h
    obtain ⟨htruth, rfl⟩ := (hdecided w r).1 h
    rw [hsettles.2 (.inr htruth)]
    rfl
  case undecided =>
    intro v w hv hw
    rw [hnone] at hv hw
    rw [hnone, Value.truth?_ofTruth, ne_eq, hsettles, not_or]
    exact ⟨hv, hw⟩
  case assoc =>
    intro u v w
    rw [Value.truth?_ofTruth, Value.truth?_ofTruth, hassoc]

theorem conjunction : Associates .and fun v w => .ofTruth (conj v.truth? w.truth?) :=
  ofConnective (fun _ _ _ _ => rfl) (fun _ _ => decided?_and_eq_some_iff) conj_eq_false_iff conj_assoc

theorem disjunction : Associates .or fun v w => .ofTruth (disj v.truth? w.truth?) :=
  ofConnective (fun _ _ _ _ => rfl) (fun _ _ => decided?_or_eq_some_iff) disj_eq_true_iff disj_assoc

theorem concatenation : Associates .concat concat := by
  have hstrict (v : Value) : decided? .concat v = none := decided?_eq_none (by decide) (by decide) v
  refine ⟨fun _ _ _ _ => rfl, ?_, ?_, fun _ _ => hstrict _, concat_assoc⟩
  · intro v r h
    rw [hstrict] at h
    cases h
  · intro v w r h
    rw [hstrict] at h
    cases h

/-! ### The evaluation of an associative operator -/

variable {ctx : Context} {record : Record} {left left' right right' : Expr}

theorem eval_binary (h : Associates op f) (left right : Expr) :
    (Expr.binary op false left right).eval ctx record =
      (left.eval ctx record).bind fun v =>
        match decided? op v with
        | some r => .ok r
        | none => (right.eval ctx record).map (f v) := by
  cases hleft : left.eval ctx record with
  | error error => exact Expr.eval_binary_left_error hleft false
  | ok v =>
    rw [Except.bind]
    cases hdecided : decided? op v with
    | some r => exact Expr.eval_binary_decided hleft hdecided
    | none =>
      cases hright : right.eval ctx record with
      | error error => exact Expr.eval_binary_right_error hleft hdecided hright false
      | ok w =>
        rw [Expr.eval_binary_values hleft hdecided hright, h.combine_eq]
        rfl

theorem eval_congr (h : Associates op f) (hleft : left.eval ctx record = left'.eval ctx record)
    (hright : right.eval ctx record = right'.eval ctx record) :
    (Expr.binary op false left right).eval ctx record = (Expr.binary op false left' right').eval ctx record := by
  rw [h.eval_binary, h.eval_binary, hleft, hright]

theorem eval_assoc (h : Associates op f) (a b c : Expr) :
    (Expr.binary op false (.binary op false a b) c).eval ctx record =
      (Expr.binary op false a (.binary op false b c)).eval ctx record := by
  rw [h.eval_binary, h.eval_binary, h.eval_binary, h.eval_binary]
  cases a.eval ctx record with
  | error error => rfl
  | ok u =>
    simp only [Except.bind]
    cases hu : decided? op u with
    | some r => simp only [h.settled hu]
    | none =>
      cases b.eval ctx record with
      | error error => rfl
      | ok v =>
        simp only [Except.map]
        cases hv : decided? op v with
        | some r =>
          -- the middle operand settles the result on the left of the last operator and on the right of the first
          have hr := h.settled hv
          simp only [h.absorbs u hv, hr, h.absorbs u hr]
        | none =>
          simp only [h.undecided hu hv]
          cases c.eval ctx record with
          | error error => rfl
          | ok w => exact congrArg Except.ok (h.assoc u v w)

end Associates

/-! ### Trees of one operator -/

namespace Expr

/-- The trees of one operator over some operands in their order. -/
inductive Nests (op : BinaryOperator) : List Expr → Expr → Prop
  | operand (e : Expr) : Nests op [e] e
  | node {es fs : List Expr} {left right : Expr} (hleft : Nests op es left) (hright : Nests op fs right) :
    Nests op (es ++ fs) (.binary op false left right)

/-- The tree of operands in which each one but the last stands on the left. -/
def nested (op : BinaryOperator) (e : Expr) : List Expr → Expr
  | [] => e
  | e' :: es => .binary op false e (nested op e' es)

section

variable {op : BinaryOperator} {f : Value → Value → Value} {ctx : Context} {record : Record}

theorem eval_nested_append (h : Associates op f) (e : Expr) (es : List Expr) (e' : Expr) (fs : List Expr) :
    (nested op e (es ++ e' :: fs)).eval ctx record =
      (binary op false (nested op e es) (nested op e' fs)).eval ctx record := by
  induction es generalizing e with
  | nil => rfl
  | cons d ds ih =>
    rw [List.cons_append, nested, nested, h.eval_assoc]
    exact h.eval_congr rfl (ih d)

theorem Nests.eval_nested (h : Associates op f) {es : List Expr} {tree : Expr} (htree : Nests op es tree)
    (ctx : Context) (record : Record) :
    ∃ e rest, es = e :: rest ∧ tree.eval ctx record = (nested op e rest).eval ctx record := by
  induction htree with
  | operand e => exact ⟨e, [], rfl, rfl⟩
  | node hleft hright ihleft ihright =>
    obtain ⟨e, rest, rfl, hl⟩ := ihleft
    obtain ⟨e', rest', rfl, hr⟩ := ihright
    exact ⟨e, rest ++ e' :: rest', rfl, (h.eval_congr hl hr).trans (eval_nested_append h e rest e' rest').symm⟩

/-- However operands are grouped, they are evaluated alike. -/
theorem Nests.eval_eq (h : Associates op f) {es : List Expr} {tree tree' : Expr} (htree : Nests op es tree)
    (htree' : Nests op es tree') : tree.eval ctx record = tree'.eval ctx record := by
  obtain ⟨e, rest, rfl, heval⟩ := htree.eval_nested h ctx record
  obtain ⟨e', rest', hes, heval'⟩ := htree'.eval_nested h ctx record
  obtain ⟨rfl, rfl⟩ := List.cons.inj hes
  rw [heval, heval']

theorem Nests.foldl {es : List Expr} {tree : Expr} (htree : Nests op es tree) (fs : List Expr) :
    Nests op (es ++ fs) (fs.foldl (binary op false) tree) := by
  induction fs generalizing es tree with
  | nil => rwa [List.append_nil]
  | cons e fs ih =>
    rw [List.append_cons, List.foldl_cons]
    exact ih (.node htree (.operand e))

end

end Expr

/-! ### Chains that have been read -/

namespace Parser

/-- Only `IS` and the pattern operators have an opposite. -/
theorem IsOperator.negate_eq_false {marks : List Token.Content} {op : BinaryOperator} {negate : Bool}
    (h : IsOperator marks op negate) (his : op ≠ .is) (hpattern : op.isPattern = false) : negate = false := by
  cases h with
  | mark => rfl
  | word => rfl
  | isNot => exact absurd rfl his
  | notPattern htrue =>
    rw [hpattern] at htrue
    cases htrue

theorem Grouped.nests {op : BinaryOperator} (his : op ≠ .is) (hpattern : op.isPattern = false) {first tree : Expr}
    {links : List Link} (h : Grouped first links tree) (hop : ∀ l ∈ links, l.op = op) :
    Expr.Nests op (first :: links.map Link.operand) tree := by
  induction h with
  | atom first => exact .operand first
  | @node first left right before after l hbefore hafter hleft hright ihleft ihright =>
    rw [List.forall_mem_append, List.forall_mem_cons] at hop
    obtain ⟨hopBefore, rfl, hopAfter⟩ := hop
    rw [l.isOperator.negate_eq_false his hpattern, List.map_append, List.map_cons, ← List.cons_append]
    exact .node (ihleft hopBefore) (ihright hopAfter)

/-- `OR` and a field. -/
def alternativeLink (path : String) : Link where
  marks := [keywordToken .OR]
  op := .or
  negate := false
  token := (.quotedIdentifier, path)
  operand := .field path
  isOperator := .word (keywordContent?_keywordToken .OR) rfl
  isAtom := .name path

/-- The links of `NULL OR "open" OR "missing"`. -/
def openLinks : List Link :=
  [alternativeLink "open", alternativeLink "missing"]

theorem grouped_openLinks : Grouped (.literal .null) openLinks
    (.binary .or false (.literal .null) (.binary .or false (.field "open") (.field "missing"))) := by
  have hopen : Grouped (.field "open") [alternativeLink "missing"]
      (.binary .or false (.field "open") (.field "missing")) :=
    @Grouped.node _ _ _ [] [] (alternativeLink "missing") (by decide) (by decide) (.atom _) (.atom _)
  exact @Grouped.node _ _ _ [] _ (alternativeLink "open") (by decide) (by decide) (.atom _) hopen

end Parser

namespace Expr

/-- **The grouping of a chain cannot be seen** for `AND`, `OR` and `||`: both trees of three operands have the same value
or the same error, whatever the operands are. So the tree as which a chain of one of them is read is evaluated like the
one that takes its operands from left to right. -/
theorem eval_grouping {op : BinaryOperator} (hop : op = .and ∨ op = .or ∨ op = .concat) (ctx : Context)
    (record : Record) :
    (∀ a b c : Expr, (binary op false (binary op false a b) c).eval ctx record =
      (binary op false a (binary op false b c)).eval ctx record) ∧
    ∀ (first : Expr) (links : List Parser.Link) (tree : Expr), (∀ l ∈ links, l.op = op) →
      Parser.Grouped first links tree →
      tree.eval ctx record = ((links.map Parser.Link.operand).foldl (binary op false) first).eval ctx record := by
  obtain ⟨f, h, his, hpattern⟩ : ∃ f, Associates op f ∧ op ≠ .is ∧ op.isPattern = false := by
    obtain rfl | rfl | rfl := hop
    · exact ⟨_, .conjunction, by decide, rfl⟩
    · exact ⟨_, .disjunction, by decide, rfl⟩
    · exact ⟨_, .concatenation, by decide, rfl⟩
  constructor
  · exact h.eval_assoc
  · intro first links tree hlinks htree
    exact (htree.nests his hpattern hlinks).eval_eq h ((Nests.operand first).foldl _)

/-- The middle operand settles a chain of `OR`, whose last operand is a field that the record does not have. -/
theorem eval_grouping_settled :
    (BinaryOperator.or = .and ∨ BinaryOperator.or = .or ∨ BinaryOperator.or = .concat) ∧
      (∀ l ∈ Parser.openLinks, l.op = .or) ∧
      (binary .or false (.literal .null) (binary .or false (.field "open") (.field "missing"))).eval default
        [("open", .boolean true)] = .ok (.boolean true) ∧
      (binary .or false (binary .or false (.literal .null) (.field "open")) (.field "missing")).eval default
        [("open", .boolean true)] = .ok (.boolean true) := by
  have hop : BinaryOperator.or = .and ∨ BinaryOperator.or = .or ∨ BinaryOperator.or = .concat := .inr (.inl rfl)
  have hlinks : ∀ l ∈ Parser.openLinks, l.op = .or := by simp [Parser.openLinks, Parser.alternativeLink]
  obtain ⟨hthree, hchain⟩ := eval_grouping hop default [("open", .boolean true)]
  have hread : (binary .or false (.literal .null) (binary .or false (.field "open") (.field "missing"))).eval default
      [("open", .boolean true)] = .ok (.boolean true) := by
    rw [hchain _ _ _ hlinks Parser.grouped_openLinks]
    rfl
  exact ⟨hop, hlinks, hread, by rw [hthree, hread]⟩

end Expr

end SqlFormula
