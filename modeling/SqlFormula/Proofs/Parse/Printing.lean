import SqlFormula.Proofs.Parse.Takes
import SqlFormula.Syntax.Expr

/-!
# Expressions in full

An expression can be written so that nothing depends on how tight its operators bind: every operand stands in
parentheses. Some parts are set off by the notation anyway: the arguments of calls, candidates, the parts of a `CASE` and
what is cast. These stand in parentheses as well, or bare.

## Main definitions

- `Expr.pieces`, `Expr.fullText` — what is written for an expression
- `Expr.Expressible` — the expressions that have a text
-/

namespace SqlFormula

/-! ### Pieces of the notation -/

namespace Piece

/-- The piece of a reserved word. -/
def keyword (k : Keyword) : Piece :=
  .word k.display

/-- Pieces in parentheses. -/
def enclosed (ps : List Piece) : List Piece :=
  .symbol "(" :: (ps ++ [.symbol ")"])

/-- Items with commas between them. -/
def items : List (List Piece) → List Piece
  | [] => []
  | [ps] => ps
  | ps :: qs :: rest => ps ++ .symbol "," :: items (qs :: rest)

/-- A part that the notation sets off by itself: in parentheses or bare. -/
def part (bare : Bool) (ps : List Piece) : List Piece :=
  if bare then ps else enclosed ps

end Piece

open Piece

namespace UnaryOperator

/-- The operator as it is written. -/
def piece : UnaryOperator → Piece
  | .not => keyword .NOT
  | .negate => .symbol "-"
  | .plus => .symbol "+"

end UnaryOperator

namespace BinaryOperator

/-- The reserved word that an operator is. -/
def keyword? : BinaryOperator → Option Keyword
  | .is => some .IS
  | .and => some .AND
  | .or => some .OR
  | .like => some .LIKE
  | .glob => some .GLOB
  | .regexp => some .REGEXP
  | .match => some .MATCH
  | _ => none

/-- Whether there is an operator that says the opposite. -/
def canNegate (op : BinaryOperator) : Bool :=
  op == .is || op.isPattern

/-- The operator as it is written. -/
def piece (op : BinaryOperator) : Piece :=
  match op.keyword? with
  | some k => keyword k
  | none => .symbol op.symbol

/-- The operator or its opposite. `NOT` comes after `IS` and before the other operators. -/
def pieces (op : BinaryOperator) (negate : Bool) : List Piece :=
  if negate then
    if op = .is then [keyword .IS, keyword .NOT] else [keyword .NOT, op.piece]
  else [op.piece]

end BinaryOperator

namespace TypeName

/-- The words of a declared type. -/
def words (t : TypeName) : List String :=
  (t.name.toList.splitOn ' ').map String.ofList

/-- The words and the sizes of a declared type. -/
def pieces (t : TypeName) : List Piece :=
  t.words.map .word ++
    if t.sizes.isEmpty then [] else enclosed (items (t.sizes.map fun i => [.integer i.toInt]))

/-- A declared type of words that are not reserved. -/
def Expressible (t : TypeName) : Prop :=
  (∀ w ∈ t.words, IsWord w ∧ Keyword.lookup w = none) ∧ t = .declare t.name t.sizes

end TypeName

namespace Value

/-- A literal as it is written. -/
def literalPieces : Value → List Piece
  | .null => [keyword .NULL]
  | .boolean b => [keyword (if b then .TRUE else .FALSE)]
  | .integer i => [.integer i.toInt]
  | .text s => [.text s]
  | .blob bytes => [.blob bytes]
  | _ => []

/-- The values that there are literals of, except floats. -/
def IsLiteral : Value → Prop
  | .null | .boolean _ | .integer _ | .text _ | .blob _ => True
  | _ => False

end Value

namespace Expr

/-- A `NOT`, if there is one. -/
def notPieces (negate : Bool) : List Piece :=
  if negate then [keyword .NOT] else []

section

variable (bare : Bool)

mutual

/-- What is written for an expression. -/
def pieces : Expr → List Piece
  | .literal v => v.literalPieces
  | .field path => [.name path]
  | .unary op operand => op.piece :: enclosed (pieces operand)
  | .binary op negate left right => enclosed (pieces left) ++ op.pieces negate ++ enclosed (pieces right)
  | .call function args => .word function.name :: enclosed (items (partPieces args))
  | .caseWhen clauses otherwise =>
    keyword .CASE :: (clausePieces clauses ++ keyword .ELSE :: (part bare (pieces otherwise) ++ [keyword .END]))
  | .caseOf operand clauses otherwise =>
    keyword .CASE :: (part bare (pieces operand) ++
      (clausePieces clauses ++ keyword .ELSE :: (part bare (pieces otherwise) ++ [keyword .END])))
  | .between negate operand low high =>
    enclosed (pieces operand) ++ notPieces negate ++
      keyword .BETWEEN :: (enclosed (pieces low) ++ keyword .AND :: enclosed (pieces high))
  | .among negate operand candidates =>
    enclosed (pieces operand) ++ notPieces negate ++ keyword .IN :: enclosed (items (partPieces candidates))
  | .cast operand target =>
    keyword .CAST :: enclosed (part bare (pieces operand) ++ keyword .AS :: target.pieces)
  | .collate operand collation =>
    enclosed (pieces operand) ++ [keyword .COLLATE, .word collation.tag]

/-- What is written for arguments and candidates. -/
def partPieces : List Expr → List (List Piece)
  | [] => []
  | e :: es => part bare (pieces e) :: partPieces es

/-- What is written for the clauses of a `CASE`. -/
def clausePieces : List (Expr × Expr) → List Piece
  | [] => []
  | (condition, result) :: rest =>
    keyword .WHEN :: (part bare (pieces condition) ++
      keyword .THEN :: (part bare (pieces result) ++ clausePieces rest))

end

/-- The text of an expression in full. -/
def fullText (e : Expr) : String :=
  String.ofList (line (e.pieces bare))

end

example : (Expr.binary .is true (.literal (.integer (-5))) (.field "a\"b")).fullText true =
    "( -5 ) IS NOT ( \"a\"\"b\" )" := by
  decide

mutual

/-- The grammar has a text for the expression: its literals are no floats, only operators that have an opposite are
negated, every `CASE` has a clause, and the words of types are not reserved. -/
def Expressible : Expr → Prop
  | .literal v => v.IsLiteral
  | .field _ => True
  | .unary _ operand => operand.Expressible
  | .binary op negate left right =>
    (negate = true → op.canNegate = true) ∧ left.Expressible ∧ right.Expressible
  | .call _ args => AllExpressible args
  | .caseWhen clauses otherwise => clauses ≠ [] ∧ ClausesExpressible clauses ∧ otherwise.Expressible
  | .caseOf operand clauses otherwise =>
    operand.Expressible ∧ clauses ≠ [] ∧ ClausesExpressible clauses ∧ otherwise.Expressible
  | .between _ operand low high => operand.Expressible ∧ low.Expressible ∧ high.Expressible
  | .among _ operand candidates => operand.Expressible ∧ AllExpressible candidates
  | .cast operand target => operand.Expressible ∧ target.Expressible
  | .collate operand _ => operand.Expressible

/-- There is a text for all of them. -/
def AllExpressible : List Expr → Prop
  | [] => True
  | e :: es => e.Expressible ∧ AllExpressible es

/-- There is a text for the parts of all clauses. -/
def ClausesExpressible : List (Expr × Expr) → Prop
  | [] => True
  | (condition, result) :: rest => condition.Expressible ∧ result.Expressible ∧ ClausesExpressible rest

end

theorem allExpressible_iff {es : List Expr} : AllExpressible es ↔ ∀ e ∈ es, e.Expressible := by
  induction es with
  | nil => simp [AllExpressible]
  | cons e es ih => rw [AllExpressible, ih, List.forall_mem_cons]

theorem clausesExpressible_iff {clauses : List (Expr × Expr)} :
    ClausesExpressible clauses ↔ ∀ c ∈ clauses, c.1.Expressible ∧ c.2.Expressible := by
  induction clauses with
  | nil => simp [ClausesExpressible]
  | cons c rest ih => rw [ClausesExpressible, ih, List.forall_mem_cons, and_assoc]

theorem partPieces_eq_map (bare : Bool) (es : List Expr) :
    partPieces bare es = es.map fun e => part bare (e.pieces bare) := by
  induction es with
  | nil => rfl
  | cons e es ih => rw [partPieces, ih, List.map_cons]

end Expr

/-! ### Every piece is proper -/

/-- Whether the characters are those of a word, if all of them are ASCII. -/
def isAsciiWord : List Char → Bool
  | [] => false
  | c :: cs =>
    c.val < 128 && (c.isAlpha || c == '_') && cs.all fun d => d.val < 128 && (d.isAlpha || d.isDigit || d == '_' || d == '$')

theorem isWord_of_ascii {s : String} (h : isAsciiWord s.toList = true) : IsWord s := by
  cases hs : s.toList with
  | nil =>
    rw [hs] at h
    cases h
  | cons c cs =>
    rw [hs] at h
    simp only [isAsciiWord, Bool.and_eq_true, decide_eq_true_eq, List.all_eq_true] at h
    obtain ⟨⟨hc, hstart⟩, hcs⟩ := h
    refine ⟨c, cs, hs, ?_, fun d hd => ?_⟩
    · rwa [Text.isAlphabetic, if_pos hc]
    · rw [isWordPart_of_ascii (hcs d hd).1]
      exact (hcs d hd).2

theorem isWord_display (k : Keyword) : IsWord k.display := by
  refine isWord_of_ascii ?_
  cases k <;> decide

theorem isWord_name (f : Builtin) : IsWord f.name := by
  refine isWord_of_ascii ?_
  cases f <;> decide

theorem isWord_tag (c : Collation) : IsWord c.tag := by
  refine isWord_of_ascii ?_
  cases c <;> decide

/-- All pieces are proper. -/
def AllProper (ps : List Piece) : Prop :=
  ∀ p ∈ ps, p.Proper

section

variable {p : Piece} {ps qs : List Piece}

@[simp]
theorem allProper_nil : AllProper [] :=
  nofun

@[simp]
theorem allProper_cons : AllProper (p :: ps) ↔ p.Proper ∧ AllProper ps :=
  List.forall_mem_cons

@[simp]
theorem allProper_append : AllProper (ps ++ qs) ↔ AllProper ps ∧ AllProper qs :=
  List.forall_mem_append

@[simp]
theorem proper_symbol {s : String} : (Piece.symbol s).Proper ↔ s ∈ marks :=
  Iff.rfl

@[simp]
theorem proper_keyword (k : Keyword) : (keyword k).Proper :=
  isWord_display k

@[simp]
theorem allProper_enclosed : AllProper (enclosed ps) ↔ AllProper ps := by
  simp [enclosed, marks]

theorem AllProper.part (h : AllProper ps) (bare : Bool) : AllProper (part bare ps) := by
  cases bare with
  | false => exact allProper_enclosed.2 h
  | true => exact h

theorem AllProper.items {pss : List (List Piece)} (h : ∀ ps ∈ pss, AllProper ps) : AllProper (items pss) := by
  fun_induction Piece.items pss with
  | case1 => exact allProper_nil
  | case2 ps => exact h ps List.mem_cons_self
  | case3 ps qs rest ih =>
    obtain ⟨hps, hrest⟩ := List.forall_mem_cons.1 h
    simp [hps, ih hrest, marks]

end

theorem UnaryOperator.proper_piece (op : UnaryOperator) : op.piece.Proper := by
  cases op <;> simp [UnaryOperator.piece, marks]

theorem BinaryOperator.proper_piece (op : BinaryOperator) : op.piece.Proper := by
  cases op <;> simp [BinaryOperator.piece, BinaryOperator.keyword?, BinaryOperator.symbol, marks]

theorem BinaryOperator.allProper_pieces (op : BinaryOperator) (negate : Bool) : AllProper (op.pieces negate) := by
  unfold BinaryOperator.pieces
  split
  · split <;> simp [op.proper_piece]
  · simp [op.proper_piece]

theorem Value.allProper_literalPieces (v : Value) : AllProper v.literalPieces := by
  cases v with
  | null | boolean => simp [Value.literalPieces]
  | _ => simp [Value.literalPieces, Piece.Proper]

theorem TypeName.allProper_pieces {t : TypeName} (h : t.Expressible) : AllProper t.pieces := by
  have hwords : AllProper (t.words.map .word) := by
    intro p hp
    obtain ⟨w, hw, rfl⟩ := List.mem_map.1 hp
    exact (h.1 w hw).1
  have hsizes : ∀ ps ∈ t.sizes.map (fun i => [Piece.integer i.toInt]), AllProper ps := by
    intro ps hps
    obtain ⟨i, -, rfl⟩ := List.mem_map.1 hps
    simp [Piece.Proper]
  rw [TypeName.pieces, allProper_append]
  refine ⟨hwords, ?_⟩
  split
  · exact allProper_nil
  · exact allProper_enclosed.2 (AllProper.items hsizes)

namespace Expr

theorem allProper_notPieces (negate : Bool) : AllProper (notPieces negate) := by
  cases negate <;> simp [notPieces]

variable (bare : Bool)

mutual

theorem allProper_pieces {e : Expr} (h : e.Expressible) : AllProper (e.pieces bare) := by
  cases e with rw [Expressible] at h
  | literal v =>
    rw [pieces]
    exact v.allProper_literalPieces
  | field path => simp [pieces, Piece.Proper]
  | unary op operand =>
    simp [pieces, op.proper_piece, allProper_pieces h]
  | binary op negate left right =>
    simp [pieces, op.allProper_pieces, allProper_pieces h.2.1, allProper_pieces h.2.2]
  | call function args =>
    simp only [pieces, allProper_cons, allProper_enclosed]
    exact ⟨isWord_name function, AllProper.items (allProper_partPieces h)⟩
  | caseWhen clauses otherwise =>
    simp [pieces, allProper_clausePieces h.2.1, (allProper_pieces h.2.2).part]
  | caseOf operand clauses otherwise =>
    simp [pieces, (allProper_pieces h.1).part, allProper_clausePieces h.2.2.1, (allProper_pieces h.2.2.2).part]
  | between negate operand low high =>
    simp [pieces, allProper_notPieces, allProper_pieces h.1, allProper_pieces h.2.1, allProper_pieces h.2.2]
  | among negate operand candidates =>
    simp [pieces, allProper_notPieces, allProper_pieces h.1, AllProper.items (allProper_partPieces h.2)]
  | cast operand target =>
    simp [pieces, (allProper_pieces h.1).part, TypeName.allProper_pieces h.2]
  | collate operand collation =>
    simp only [pieces, allProper_append, allProper_enclosed, allProper_cons, allProper_nil, proper_keyword]
    exact ⟨allProper_pieces h, trivial, isWord_tag collation, trivial⟩

theorem allProper_partPieces {es : List Expr} (h : AllExpressible es) : ∀ ps ∈ partPieces bare es, AllProper ps := by
  cases es with
  | nil => exact nofun
  | cons e es =>
    rw [AllExpressible] at h
    rw [partPieces, List.forall_mem_cons]
    exact ⟨(allProper_pieces h.1).part bare, allProper_partPieces h.2⟩

theorem allProper_clausePieces {clauses : List (Expr × Expr)} (h : ClausesExpressible clauses) :
    AllProper (clausePieces bare clauses) := by
  cases clauses with
  | nil => exact allProper_nil
  | cons c rest =>
    rw [ClausesExpressible] at h
    simp [clausePieces, (allProper_pieces h.1).part, (allProper_pieces h.2.1).part, allProper_clausePieces h.2.2]

end

end Expr

end SqlFormula
