import SqlFormula.Proofs.Parse.Continuation
import SqlFormula.Proofs.Parse.Invariants
import SqlFormula.Proofs.Syntax.Height

/-!
# How high expressions can get

Nesting is limited, but expressions also grow without nesting, to the left. At one level of nesting the operators have to
bind looser and looser, so there is one for each class of precedence at most. A range, a list of candidates, a test for
NULL or a collation takes the whole expression so far as its operand and starts anew. Nothing limits how many of these
follow each other.

## Main definitions

- `Expr.AtMost` — an expression is as high as some number of levels allows
- `Parser.Levels.Bounded` — the readers of a level give such expressions

## Main statements

- `Parser.bounded_levels` — with `n` levels left, expressions have at most `8 * n` nodes on a path, and 8 more for each
  of what starts anew
-/

namespace SqlFormula

namespace Expr

/-- On no path are there more nodes than `n` levels allow, and `extra` more. -/
def AtMost (n extra : Nat) (e : Expr) : Prop :=
  e.height ≤ 8 * (n + e.postfixes) + extra

variable {n : Nat}

theorem heights_le {es : List Expr} (h : ∀ e ∈ es, e.AtMost n 0) :
    pathSums (fun _ => 1) es ≤ 8 * (n + pathSums (fun e => if e.isPostfix then 1 else 0) es) := by
  rw [pathSums_le_iff]
  intro e he
  have hheight := h e he
  have hpostfixes : e.postfixes ≤ pathSums (fun e => if e.isPostfix then 1 else 0) es := pathSum_le_pathSums he
  rw [AtMost, height] at hheight
  omega

/-- A node is one more than its parts. -/
theorem passes_atMost (n : Nat) : Passes (AtMost n 0) (AtMost n 1) where
  enclosed h := Nat.le_succ_of_le h
  node {e} _ h := by
    have hparts : ∀ p ∈ e.parts, p.pathSum (fun _ => 1) ≤ 8 * (n + e.postfixes) := by
      intro p hp
      have hheight := h p hp
      have hpostfixes : p.postfixes ≤ e.postfixes := pathSum_le_of_mem_parts hp
      rw [AtMost, height] at hheight
      omega
    have hnode := pathSum_le_iff.2 hparts
    rw [AtMost, height]
    omega

end Expr

namespace Parser

open Reader Levels

namespace Levels

/-- What the readers of a level give. After an expression of operators that bind at least so tight comes none of them. -/
structure Bounded (inner : Levels) (n : Nat) : Prop where
  operand : inner.operand.Ensures fun e _ => e.AtMost n 0
  expression : ∀ least,
    (inner.expression least).Ensures fun e rest => e.AtMost n 0 ∧ tightContinuation? least rest = none

section

variable {inner : Levels} {n : Nat}

theorem Bounded.gives (h : Bounded inner n) : Gives inner fun e => e.AtMost n 0 :=
  ⟨h.operand, fun least => (h.expression least).mono fun _ _ he => he.1⟩

theorem Bounded.ensures_unary (h : Bounded inner n) : inner.unary.Ensures fun e _ => e.AtMost n 1 :=
  Levels.ensures_unary (Expr.passes_atMost n) h.gives

/-! ### Growth to the left -/

/-- What a loop of continuations preserves: for some class of precedence there is room for one more node for each class up
to it, and the next binary operator is of none above it. -/
def HasRoom (n least : Nat) (left : Expr) (rest : List Token) : Prop :=
  ∃ top ≤ 7, left.height + top ≤ 8 * (n + 1 + left.postfixes) ∧
    ∀ op negate isPair, tightContinuation? least rest = some (.binary op negate, isPair) → op.precedence ≤ top

theorem precedence_le (op : BinaryOperator) : op.precedence ≤ 7 := by
  cases op <;> decide

theorem precedence_pos (op : BinaryOperator) : 0 < op.precedence := by
  cases op <;> decide

theorem hasRoom_operand {left : Expr} (h : left.AtMost n 1) (least : Nat) (rest : List Token) :
    HasRoom n least left rest := by
  refine ⟨7, Nat.le_refl 7, ?_, fun op _ _ _ => precedence_le op⟩
  rw [Expr.AtMost] at h
  omega

section

variable {left right e : Expr} {least : Nat} {input rest : List Token}

/-- An operator leaves room for the classes below its own. Those above are used up by its right side, which ends where an
operator is looser. -/
theorem hasRoom_binary {op : BinaryOperator} {negate isPair : Bool} (hroom : HasRoom n least left input)
    (hnext : tightContinuation? least input = some (.binary op negate, isPair)) (hright : right.AtMost n 0)
    (hrest : tightContinuation? op.precedence rest = none) : HasRoom n least (.binary op negate left right) rest := by
  obtain ⟨top, htop, hleft, hclass⟩ := hroom
  have hop := hclass op negate isPair hnext
  have hpos := precedence_pos op
  refine ⟨op.precedence - 1, by omega, ?_, fun op' negate' isPair' hnext' => ?_⟩
  · rw [Expr.AtMost, Expr.height, Expr.postfixes] at hright
    rw [Expr.height, Expr.postfixes] at hleft ⊢
    rw [Expr.pathSum, Expr.pathSum]
    omega
  · have hsome : continuation? rest = some (.binary op' negate', isPair') := (Option.filter_eq_some_iff.1 hnext').1
    rw [tightContinuation?, hsome, Option.filter_eq_none_iff] at hrest
    have hlooser : ¬op.precedence ≤ op'.precedence := fun hle => hrest _ rfl (decide_eq_true hle)
    omega

/-- What follows an operand without an operand of its own after it leaves room for all classes. -/
theorem hasRoom_afresh (hroom : HasRoom n least left input) (others sums : Nat)
    (hheight : e.height ≤ 1 + max left.height others) (hothers : others ≤ 8 * (n + sums))
    (hpostfixes : 1 + max left.postfixes sums ≤ e.postfixes) (rest : List Token) : HasRoom n least e rest := by
  obtain ⟨top, htop, hleft, -⟩ := hroom
  refine ⟨7, Nat.le_refl 7, ?_, fun op _ _ _ => precedence_le op⟩
  omega

theorem Bounded.ensures_continueWith (h : Bounded inner n) {c : Continuation} {isPair : Bool}
    (hroom : HasRoom n least left input) (hnext : tightContinuation? least input = some (c, isPair)) :
    (inner.continueWith left c).Ensures (HasRoom n least) := by
  cases c with
  | binary op negate =>
    rw [continueWith]
    exact (h.expression _).map fun right rest hright => hasRoom_binary hroom hnext hright.1 hright.2
  | between negate =>
    rw [continueWith]
    refine (h.gives.expression _).bind fun low _ hlow => ensures_bind fun _ => ?_
    refine (h.gives.expression _).bind fun high _ hhigh => ?_
    refine ensures_pure (hasRoom_afresh hroom (max low.height high.height) (max low.postfixes high.postfixes) ?_ ?_ ?_)
    · exact Nat.le_refl _
    · rw [Expr.AtMost] at hlow hhigh
      omega
    · exact Nat.le_refl _
  | among negate =>
    rw [continueWith]
    refine (ensures_candidates h.gives).map fun es rest hes =>
      hasRoom_afresh hroom _ _ (Nat.le_refl _) (Expr.heights_le hes) (Nat.le_refl _) rest
  | nullTest negate =>
    rw [continueWith]
    refine ensures_pure (hasRoom_afresh hroom 0 0 ?_ (Nat.zero_le _) (Nat.le_refl _))
    have hpos := left.height_pos
    rw [Expr.height] at hpos ⊢
    rw [Expr.height, Expr.pathSum, Expr.pathSum]
    omega
  | collate =>
    rw [continueWith]
    refine ensures_bind fun collation => ensures_pure (hasRoom_afresh hroom 0 0 ?_ (Nat.zero_le _) ?_)
    · rw [Nat.max_zero]
      exact Nat.le_refl _
    · rw [Nat.max_zero]
      exact Nat.le_refl _

end

theorem Bounded.ensures_extend (h : Bounded inner n) {left : Expr} (hleft : left.AtMost n 1) (least : Nat) :
    (inner.extend least left).Ensures fun e rest => e.AtMost (n + 1) 0 ∧ tightContinuation? least rest = none := by
  refine (ensures_loop (I := HasRoom n least) (hasRoom_operand hleft least) ?_).mono ?_
  · intro (c, isPair) left input hroom hnext
    -- the tokens of the operator are skipped, one or both
    have hcontinued := h.ensures_continueWith hroom hnext
    refine ensures_bind fun _ => ?_
    split
    · exact ensures_bind fun _ => hcontinued
    · exact hcontinued
  · rintro e rest ⟨⟨top, -, he, -⟩, hend⟩
    refine ⟨?_, ?_⟩
    · rw [Expr.AtMost]
      omega
    · obtain rfl | hnone := hend
      · rfl
      · exact hnone

end

end Levels

open Levels

theorem bounded_levels (n : Nat) : Bounded (levels n) n := by
  -- on the levels: the readers of a level take their operands from the level below
  induction n with
  | zero => exact ⟨ensures_tooDeep, fun _ => ensures_tooDeep⟩
  | succ n ih =>
    refine ⟨ih.ensures_unary.mono fun e _ he => ?_, fun least => ?_⟩
    · rw [Expr.AtMost] at he ⊢
      omega
    · exact ih.ensures_unary.bind fun left _ hleft => ih.ensures_extend hleft least

/-- What is read as an expression, and every literal, is as high as all levels allow. -/
theorem holdsOfRead_atMost : HoldsOfRead (Expr.AtMost nestingLimit 0) where
  ofExpression := (bounded_levels nestingLimit).gives.expression Precedence.lowest
  ofLiteral v _ := by
    rw [Expr.AtMost, Expr.height, Expr.pathSum, nestingLimit]
    omega

end Parser

namespace Expr

open SqlFormula.Parser Piece

/-- **How high the expressions in a text can be**: at most eight nodes for each level of nesting, and eight more for each
range, list of candidates, test for NULL and collation on a path. -/
theorem height_le_of_text (text : String) :
    (∀ e, parseFormula text = .ok e → e.height ≤ 8 * (nestingLimit + e.postfixes)) ∧
    ∀ ss, parseStatements text = .ok ss → ∀ s ∈ ss, ∀ e ∈ s.exprs, e.height ≤ 8 * (nestingLimit + e.postfixes) := by
  refine ⟨fun e he => ?_, fun ss hss => ?_⟩
  · exact of_runOn_eq_ok (ensures_formula holdsOfRead_atMost) he
  · exact of_runOn_eq_ok (ensures_statements holdsOfRead_atMost) hss

/-! ### Growth without nesting -/

/-- The number 1, tested for NULL `n` times. -/
def nullTests : Nat → Expr
  | 0 => .literal (.integer 1)
  | n + 1 => .binary .is false (nullTests n) (.literal .null)

theorem height_nullTests (n : Nat) : (nullTests n).height = n + 1 := by
  induction n with
  | zero => rfl
  | succ n ih =>
    rw [height] at ih ⊢
    rw [nullTests, pathSum, ih, pathSum]
    omega

/-- The text `1 ISNULL ISNULL …`. -/
def nullTestsText (n : Nat) : String :=
  String.ofList (Piece.line (.integer 1 :: List.replicate n (Piece.keyword .ISNULL)))

theorem takes_nullTests (k m n : Nat) :
    ((levels k).extend Precedence.lowest (nullTests m)).Takes (List.replicate n (keywordToken .ISNULL)) (· = [])
      (· = nullTests (m + n)) := by
  induction n generalizing m with
  | zero => exact takes_extend_nil fun r hr => hr ▸ rfl
  | succ n ih =>
    have hstep : ((levels k).continueWith (nullTests m) (.nullTest false)).Takes [] Anything (· = nullTests (m + 1)) :=
      takes_pure rfl
    have hnext (r : List Token.Content) :
        continuation? (([keywordToken .ISNULL] ++ ([] ++ (List.replicate n (keywordToken .ISNULL) ++ r))).map tokenOf) =
          some (.nullTest false, false) :=
      continuation?_keyword .ISNULL _
    rw [List.replicate_succ, Nat.add_comm n 1, ← Nat.add_assoc]
    exact takes_extend_cons (by rfl) hnext (Nat.zero_le _) hstep (ih (m + 1)) fun _ _ => trivial

theorem tokens_replicate (k : Keyword) (n : Nat) :
    tokens (List.replicate n (keyword k)) = List.replicate n (keywordToken k) := by
  induction n with
  | zero => rfl
  | succ n ih =>
    rw [List.replicate_succ, tokens_cons, ih, contents_keyword]
    rfl

theorem parseFormula_nullTestsText (n : Nat) : parseFormula (nullTestsText n) = .ok (nullTests n) := by
  refine parseFormula_line ?_ ?_
  · refine allProper_cons.2 ⟨trivial, fun p hp => ?_⟩
    rw [List.eq_of_mem_replicate hp]
    exact proper_keyword .ISNULL
  · rw [tokens_cons, tokens_replicate]
    have hone : (levels 255).unary.Takes [(.number, Piece.digits 1)] Anything (· = nullTests 0) :=
      takes_natural _ (i := 1) (by decide)
    refine hone.bind_any fun left hleft => ?_
    have htests := takes_nullTests 255 0 n
    rw [hleft]
    rwa [Nat.zero_add] at htests

/-- Tests for NULL follow each other without nesting, so no bound holds for all texts. -/
theorem heights_unbounded : ¬∃ bound, ∀ text e, parseFormula text = .ok e → e.height ≤ bound := by
  rintro ⟨bound, hbound⟩
  have hheight := hbound _ _ (parseFormula_nullTestsText bound)
  rw [height_nullTests] at hheight
  omega

/-- The bound for a text with one test. -/
theorem nullTest_height_le : parseFormula (nullTestsText 1) = .ok (nullTests 1) ∧
    (nullTests 1).height ≤ 8 * (nestingLimit + (nullTests 1).postfixes) :=
  ⟨parseFormula_nullTestsText 1, (height_le_of_text _).1 _ (parseFormula_nullTestsText 1)⟩

end Expr

end SqlFormula
