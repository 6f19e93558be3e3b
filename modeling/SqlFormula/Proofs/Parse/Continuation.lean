import SqlFormula.Parse
import SqlFormula.Proofs.Parse.Operand

/-!
# Continuing operands

An operand with the tokens after it: those that continue it, and those that end the expression.

## Main definitions

- `Parser.Ends`, `Parser.Closes` — what comes next does not continue an operand

## Main statements

- `Parser.takes_expression_of_unary`, `Parser.takes_continued` — an operand alone, and with one continuation
- `Parser.parseFormula_line` — from the expression to the whole text
-/

namespace SqlFormula

open Piece

namespace Parser

open Reader Levels

/-! ### What comes next -/

/-- A token at the start of a text. -/
def tokenOf (c : Token.Content) : Token :=
  { kind := c.1, text := c.2, offset := 0 }

/-- The places of tokens do not matter for what continues an operand. -/
theorem continuation?_eq (ts : List Token) : continuation? ts = continuation? ((ts.map Token.content).map tokenOf) := by
  match ts with
  | [] => rfl
  | [t] => rfl
  | t :: u :: rest => rfl

theorem continuation?_symbol (s : String) (r : List Token.Content) :
    continuation? (((.symbol, s) :: r).map tokenOf) = (markOperator? s).map fun op => (.binary op false, false) := by
  have hsymbol : symbolOperator? (tokenOf (.symbol, s)) = markOperator? s := rfl
  have hkeyword : (tokenOf (.symbol, s)).keyword? = none := rfl
  rw [List.map_cons, continuation?, hsymbol, hkeyword]
  cases markOperator? s with
  | none => rfl
  | some op => rfl

theorem continuation?_word {c : Token.Content} {k : Keyword} (hc : keywordContent? c = some k)
    (r : List Token.Content) :
    continuation? ((c :: r).map tokenOf) = wordContinuation? k (r.head?.bind keywordContent?) := by
  have hkind : (tokenOf c).kind = .word := fst_eq_word_of_keywordContent? hc
  have hsymbol : symbolOperator? (tokenOf c) = none := by
    rw [symbolOperator?, hkind]
  have hkeyword : (tokenOf c).keyword? = some k := hc
  have hrest : (r.map tokenOf).head?.bind Token.keyword? = r.head?.bind keywordContent? := by
    cases r with
    | nil => rfl
    | cons c r => rfl
  rw [List.map_cons, continuation?, hsymbol, hkeyword, hrest]

theorem continuation?_keyword (k : Keyword) (r : List Token.Content) :
    continuation? ((keywordToken k :: r).map tokenOf) = wordContinuation? k (r.head?.bind keywordContent?) :=
  continuation?_word (keywordContent?_keywordToken k) r

theorem continuation?_keywords (k l : Keyword) (r : List Token.Content) :
    continuation? ((keywordToken k :: keywordToken l :: r).map tokenOf) = wordContinuation? k (some l) := by
  rw [continuation?_keyword, List.head?_cons, Option.bind_some, keywordContent?_keywordToken]

/-- What comes next does not continue an operand with an operator that binds at least so tight. -/
def Ends (least : Nat) (r : List Token.Content) : Prop :=
  tightContinuation? least (r.map tokenOf) = none

theorem tightContinuation?_of_ends {least : Nat} {ts : List Token} (h : Ends least (ts.map Token.content)) :
    tightContinuation? least ts = none := by
  rwa [Ends, tightContinuation?, ← continuation?_eq] at h

/-- The tokens that end an expression. -/
def closers : List Token.Content :=
  [(.symbol, ")"), (.symbol, ","), keywordToken .WHEN, keywordToken .THEN, keywordToken .ELSE, keywordToken .END,
   keywordToken .AS]

/-- What comes next, if anything does, ends an expression. -/
def Closes (r : List Token.Content) : Prop :=
  ∀ c ∈ r.head?, c ∈ closers

theorem closes_cons {c : Token.Content} {r : List Token.Content} (h : c ∈ closers) : Closes (c :: r) := by
  intro d hd
  rwa [← Option.some.inj hd]

theorem Closes.ends {r : List Token.Content} (h : Closes r) (least : Nat) : Ends least r := by
  cases r with
  | nil => rfl
  | cons c r =>
    have hnone : continuation? ((c :: r).map tokenOf) = none := by
      have hc := h c rfl
      simp only [closers, List.mem_cons, List.not_mem_nil, or_false] at hc
      rcases hc with rfl | rfl | rfl | rfl | rfl | rfl | rfl
      · exact continuation?_symbol ")" r
      · exact continuation?_symbol "," r
      all_goals rw [continuation?_keyword]; rfl
    rw [Ends, tightContinuation?, hnone]
    rfl

theorem Closes.noPoint {r : List Token.Content} (h : Closes r) : NoPoint r := by
  intro hpoint
  exact absurd (h _ hpoint) (by decide)

theorem continuation?_operator {op : BinaryOperator} {negate : Bool} (h : negate = true → op.canNegate = true)
    (r : List Token.Content) :
    continuation? ((tokens (op.pieces negate) ++ (.symbol, "(") :: r).map tokenOf) = some (.binary op negate, negate) := by
  cases negate with
  | false => cases op <;> first | exact continuation?_symbol _ _ | exact continuation?_keyword _ _
  | true => cases op <;> first | exact absurd (h rfl) (by decide) | exact continuation?_keywords _ _ _

theorem continuation?_not {k : Keyword} {c : Bool → Continuation}
    (h : (k, c) = (.BETWEEN, .between) ∨ (k, c) = (.IN, .among)) (negate : Bool) (r : List Token.Content) :
    continuation? ((tokens (Expr.notPieces negate ++ [keyword k]) ++ r).map tokenOf) = some (c negate, negate) := by
  cases negate with
  | false => rcases h with h | h <;> cases h <;> exact continuation?_keyword _ _
  | true => rcases h with h | h <;> cases h <;> exact continuation?_keywords _ _ _

/-! ### Operands -/

section

variable {n least : Nat} {cs : List Token.Content} {e : Expr} {E : List Token.Content → Prop}

theorem takes_extend_nil (hE : ∀ r, E r → Ends least r) : ((levels n).extend least e).Takes [] E (· = e) :=
  takes_loop_nil fun _ hts => tightContinuation?_of_ends (hE _ hts)

theorem takes_expression_of_unary (h : (levels n).unary.Takes cs E (· = e)) (hE : ∀ r, E r → Ends least r) :
    ((levels (n + 1)).expression least).Takes cs E (· = e) := by
  show Takes ((levels n).unary >>= fun left => (levels n).extend least left) cs E _
  rw [← List.append_nil cs]
  refine h.bind (fun left hleft => ?_) fun r hr => hr
  rw [hleft]
  exact takes_extend_nil hE

/-- An expression in parentheses is an operand. -/
theorem takes_operand (h : ((levels n).expression Precedence.lowest).Takes cs Closes (· = e)) :
    (levels n).unary.Takes (inParentheses cs) E (· = e) := by
  refine takes_unary_of_primary _ (keywordContent?_symbol_ne "(" .NOT) (by simp) ?_
  rw [primary]
  refine takes_peek?_bind fun t ht => ?_
  have hkind : t.kind = .symbol := congrArg Prod.fst ht
  have hsymbol : t.isSymbol "(" = true := isSymbol_eq ht "("
  simp only [hkind, hsymbol, if_true]
  exact takes_parenthesized h fun r => closes_cons (by simp [closers])

/-- The next tokens continue an operand, and more may follow. -/
theorem takes_extend_cons {ops ds more : List Token.Content} {c : Continuation} {isPair : Bool} {left : Expr}
    {F : List Token.Content → Prop} {P : Expr → Prop} (hlength : ops.length = if isPair then 2 else 1)
    (hops : ∀ r, continuation? ((ops ++ (ds ++ (more ++ r))).map tokenOf) = some (c, isPair))
    (htight : least ≤ c.precedence) (hrest : ((levels n).continueWith left c).Takes ds F (· = e))
    (hmore : ((levels n).extend least e).Takes more E P) (hE : ∀ r, E r → F (more ++ r)) :
    ((levels n).extend least left).Takes (ops ++ ds ++ more) E P := by
  refine takes_loop_cons (B := (· = (c, isPair))) (F := F) ?_ (fun ts r _ hts => ?_) (fun b hb => ?_) hmore hE
  · intro hnil
    rw [(List.append_eq_nil_iff.1 hnil).1] at hlength
    split at hlength <;> cases hlength
  · refine ⟨(c, isPair), ?_, rfl⟩
    rw [List.append_assoc, List.append_assoc] at hts
    rw [tightContinuation?, continuation?_eq, hts, hops r, Option.filter_some]
    exact if_pos (decide_eq_true htight)
  · rw [hb]
    cases isPair with
    | false =>
      obtain ⟨x, rfl⟩ := List.length_eq_one_iff.1 hlength
      exact takes_skip_one.bind_any fun _ _ => hrest
    | true =>
      obtain ⟨x, y, rfl⟩ := List.length_eq_two.1 hlength
      exact takes_skip_one.bind_any fun _ _ => takes_skip_one.bind_any fun _ _ => hrest

/-- The next tokens continue an operand, and what follows does not go on. -/
theorem takes_continued {ops ds : List Token.Content} {c : Continuation} {isPair : Bool} {operand : Expr}
    (hlength : ops.length = if isPair then 2 else 1)
    (hops : ∀ r, continuation? ((ops ++ (ds ++ r)).map tokenOf) = some (c, isPair))
    (hoperand : (levels n).unary.Takes cs Anything (· = operand))
    (hrest : ((levels n).continueWith operand c).Takes ds Closes (· = e)) :
    ((levels (n + 1)).expression Precedence.lowest).Takes (cs ++ (ops ++ ds)) Closes (· = e) := by
  show Takes ((levels n).unary >>= fun left => (levels n).extend Precedence.lowest left) _ _ _
  refine hoperand.bind_any fun left hleft => ?_
  rw [hleft, ← List.append_nil (ops ++ ds)]
  exact takes_extend_cons hlength hops (Nat.zero_le _) hrest (takes_extend_nil fun r hr => hr.ends _) fun r hr => hr

end

/-! ### Whole texts -/

theorem takes_formula {cs : List Token.Content} {e : Expr} (h : expression.Takes cs (· = []) (· = e)) :
    formula.Takes cs (· = []) (· = e) := by
  rw [formula, ← List.append_nil cs]
  refine h.bind (fun a ha => ?_) fun r hr => hr
  -- there is no semicolon and nothing else
  intro stop ts rest hts hrest
  obtain rfl := List.map_eq_nil_iff.1 hts
  obtain rfl := List.map_eq_nil_iff.1 hrest
  exact ⟨a, rfl, ha⟩

/-- Pieces in a row are a text of the expression that their tokens are read as. -/
theorem parseFormula_line {ps : List Piece} {e : Expr} (hps : AllProper ps)
    (h : expression.Takes (tokens ps) (· = []) (· = e)) : parseFormula (String.ofList (line ps)) = .ok e := by
  obtain ⟨ts, htokenize, hts⟩ := tokenize_line hps
  obtain ⟨a, hrun, rfl⟩ := takes_formula h (String.ofList (line ps)).utf8ByteSize ts [] hts rfl
  rw [List.append_nil] at hrun
  rw [parseFormula, runOn, htokenize]
  exact congrArg Prod.fst hrun

end Parser

end SqlFormula
