import SqlFormula.Proofs.Parse.Continuation

/-!
# Chains of operators

Operands without parts of their own and binary operators between them, without parentheses. The leftmost operator of the
lowest precedence class is at the root, so operators of one class group from the right. The reader goes through such a
chain in a loop, and starts a loop of its own for the right side of each operator.

## Main definitions

- `Parser.IsAtom`, `Parser.IsOperator`, `Parser.Link` — what a chain is made of
- `Parser.Grouped` — the tree of a chain, by its root

## Main statements

- `Parser.exists_grouped`, `Parser.Grouped.unique` — a chain has one tree
- `Parser.takes_links` — what the loop makes of the rest of a chain
- `Parser.parseFormula_chain` — a text that is a chain is read as its tree
-/

namespace SqlFormula.Parser

open Reader Levels

/-! ### What chains are made of -/

/-- A token that is an operand by itself: a literal without sign or a field. -/
inductive IsAtom : Token.Content → Expr → Prop
  | number {s : String} {v : Value} : numberValue (tokenOf (.number, s)) false = .ok v → IsAtom (.number, s) (.literal v)
  | text (s : String) : IsAtom (.string, s) (.literal (.text s))
  | blob {s : String} {bytes : List UInt8} :
    Text.Hex.decode s.toList = some bytes → IsAtom (.blob, s) (.literal (.blob bytes))
  | null {c : Token.Content} : keywordContent? c = some .NULL → IsAtom c (.literal .null)
  | true {c : Token.Content} : keywordContent? c = some .TRUE → IsAtom c (.literal (.boolean true))
  | false {c : Token.Content} : keywordContent? c = some .FALSE → IsAtom c (.literal (.boolean false))
  | name (path : String) : IsAtom (.quotedIdentifier, path) (.field path)
  | word {path : String} : Keyword.lookup path = none → IsAtom (.word, path) (.field path)

/-- The tokens of a binary operator, or of its opposite. -/
inductive IsOperator : List Token.Content → BinaryOperator → Bool → Prop
  | mark {s : String} {op : BinaryOperator} : markOperator? s = some op → IsOperator [(.symbol, s)] op false
  | word {c : Token.Content} {k : Keyword} {op : BinaryOperator} :
    keywordContent? c = some k → op.keyword? = some k → IsOperator [c] op false
  | isNot {c d : Token.Content} :
    keywordContent? c = some .IS → keywordContent? d = some .NOT → IsOperator [c, d] .is true
  | notPattern {c d : Token.Content} {k : Keyword} {op : BinaryOperator} : op.isPattern = true →
    keywordContent? c = some .NOT → keywordContent? d = some k → op.keyword? = some k → IsOperator [c, d] op true

/-- An operator of a chain with the operand after it. -/
structure Link where
  marks : List Token.Content
  op : BinaryOperator
  negate : Bool
  token : Token.Content
  operand : Expr
  isOperator : IsOperator marks op negate
  isAtom : IsAtom token operand

namespace Link

/-- The tokens of the operator and the operand. -/
def tokens (l : Link) : List Token.Content :=
  l.marks ++ [l.token]

/-- The precedence class of the operator. -/
def precedence (l : Link) : Nat :=
  l.op.precedence

end Link

/-- The tokens of a chain after its first operand. -/
def linkTokens (links : List Link) : List Token.Content :=
  links.flatMap Link.tokens

theorem linkTokens_append (before after : List Link) :
    linkTokens (before ++ after) = linkTokens before ++ linkTokens after :=
  List.flatMap_append

theorem linkTokens_cons (l : Link) (links : List Link) :
    linkTokens (l :: links) = l.marks ++ l.token :: linkTokens links := by
  rw [linkTokens, List.flatMap_cons, Link.tokens, List.append_assoc, List.singleton_append, ← linkTokens]

/-! ### The tree of a chain -/

/-- The tree of a chain. At its root is the leftmost operator of the lowest class, and on either side the tree of the
chain there. -/
inductive Grouped : Expr → List Link → Expr → Prop
  | atom (first : Expr) : Grouped first [] first
  | node {first left right : Expr} {before after : List Link} {l : Link}
    (hbefore : ∀ k ∈ before, l.precedence < k.precedence) (hafter : ∀ k ∈ after, l.precedence ≤ k.precedence)
    (hleft : Grouped first before left) (hright : Grouped l.operand after right) :
    Grouped first (before ++ l :: after) (.binary l.op l.negate left right)

/-- There is one leftmost operator of the lowest class. -/
theorem root_unique {before before' after after' : List Link} {l l' : Link}
    (hbefore : ∀ k ∈ before, l.precedence < k.precedence) (hafter : ∀ k ∈ after, l.precedence ≤ k.precedence)
    (hbefore' : ∀ k ∈ before', l'.precedence < k.precedence) (hafter' : ∀ k ∈ after', l'.precedence ≤ k.precedence)
    (h : before ++ l :: after = before' ++ l' :: after') : before = before' ∧ l = l' ∧ after = after' := by
  -- a root further to the right would have the other one before it, and be after it
  obtain ⟨between, rfl, hrest⟩ | ⟨between, rfl, hrest⟩ := List.append_eq_append_iff.1 h
  · cases between with
    | nil => simp_all
    | cons k between =>
      obtain ⟨rfl, rfl⟩ := List.cons.inj hrest
      have hlt := hbefore' l (by simp)
      have hle := hafter l' (by simp)
      omega
  · cases between with
    | nil => simp_all
    | cons k between =>
      obtain ⟨rfl, rfl⟩ := List.cons.inj hrest
      have hlt := hbefore l' (by simp)
      have hle := hafter' l (by simp)
      omega

theorem Grouped.unique {first e e' : Expr} {links : List Link} (h : Grouped first links e) (h' : Grouped first links e') :
    e = e' := by
  induction h generalizing e' with
  | atom first =>
    generalize hlinks : ([] : List Link) = links at h'
    cases h' with
    | atom => rfl
    | node => simp at hlinks
  | @node first left right before after l hbefore hafter hleft hright ihleft ihright =>
    generalize hlinks : before ++ l :: after = links at h'
    cases h' with
    | atom => simp at hlinks
    | node hbefore' hafter' hleft' hright' =>
      obtain ⟨rfl, rfl, rfl⟩ := root_unique hbefore hafter hbefore' hafter' hlinks
      rw [ihleft hleft', ihright hright']

theorem exists_root {links : List Link} (hne : links ≠ []) :
    ∃ before l after, links = before ++ l :: after ∧ (∀ k ∈ before, l.precedence < k.precedence) ∧
      ∀ k ∈ after, l.precedence ≤ k.precedence := by
  induction links with
  | nil => exact absurd rfl hne
  | cons l links ih =>
    by_cases hlinks : links = []
    · exact ⟨[], l, [], by rw [hlinks, List.nil_append], List.forall_mem_nil _, List.forall_mem_nil _⟩
    · obtain ⟨before, root, after, rfl, hbefore, hafter⟩ := ih hlinks
      by_cases hle : l.precedence ≤ root.precedence
      · refine ⟨[], l, before ++ root :: after, rfl, List.forall_mem_nil _, fun k hk => ?_⟩
        rw [List.mem_append, List.mem_cons] at hk
        obtain hk | rfl | hk := hk
        · exact hle.trans (hbefore k hk).le
        · exact hle
        · exact hle.trans (hafter k hk)
      · refine ⟨l :: before, root, after, rfl, ?_, hafter⟩
        exact List.forall_mem_cons.2 ⟨by omega, hbefore⟩

theorem exists_grouped (first : Expr) (links : List Link) : ∃ e, Grouped first links e := by
  induction hlength : links.length using Nat.strong_induction_on generalizing first links with
  | _ n ih =>
    by_cases hne : links = []
    · exact ⟨first, hne ▸ .atom first⟩
    · obtain ⟨before, l, after, rfl, hbefore, hafter⟩ := exists_root hne
      rw [List.length_append, List.length_cons] at hlength
      obtain ⟨left, hleft⟩ := ih before.length (by omega) first before rfl
      obtain ⟨right, hright⟩ := ih after.length (by omega) l.operand after rfl
      exact ⟨_, .node hbefore hafter hleft hright⟩

/-! ### Reading operands and operators -/

/-- What comes next does not belong to an operand of one token. -/
def EndsAtom (r : List Token.Content) : Prop :=
  NoPoint r ∧ r.head? ≠ some (.symbol, "(")

theorem takes_atom (inner : Levels) {c : Token.Content} {e : Expr} (h : IsAtom c e) :
    inner.unary.Takes [c] EndsAtom (· = e) := by
  cases h with
  | number hvalue =>
    exact takes_number inner fun t ht => numberValue_congr ht hvalue
  | text s => exact takes_text inner s
  | blob hbytes => exact takes_blob inner hbytes
  | null hc => exact takes_literalWord inner hc (.inl rfl)
  | true hc => exact takes_literalWord inner hc (.inr (.inl rfl))
  | false hc => exact takes_literalWord inner hc (.inr (.inr rfl))
  | name path => exact takes_field inner path fun r hr => hr.1
  | word hpath => exact takes_fieldWord inner hpath fun r hr => hr

theorem IsAtom.keywordContent?_ne_not {c : Token.Content} {e : Expr} (h : IsAtom c e) : keywordContent? c ≠ some .NOT := by
  cases h with
  | number | text | blob | name => exact nofun
  | null hc | true hc | false hc =>
    rw [hc]
    decide
  | word hpath =>
    rw [keywordContent?, hpath]
    exact nofun

theorem IsOperator.continuation?_eq {ops : List Token.Content} {op : BinaryOperator} {negate : Bool}
    (h : IsOperator ops op negate) {c : Token.Content} {e : Expr} (hc : IsAtom c e) (r : List Token.Content) :
    continuation? ((ops ++ c :: r).map tokenOf) = some (.binary op negate, negate) := by
  have hnot := hc.keywordContent?_ne_not
  cases h with
  | mark hmark =>
    rw [List.singleton_append, continuation?_symbol, hmark]
    rfl
  | word hword hop =>
    rw [List.singleton_append, continuation?_word hword, List.head?_cons, Option.bind_some]
    cases op with
    | is =>
      -- `IS` is followed by an operand, which does not start with `NOT`
      obtain rfl := Option.some.inj hop
      exact if_neg hnot
    | and | or | like | glob | regexp | «match» =>
      obtain rfl := Option.some.inj hop
      rfl
    | _ => cases hop
  | isNot hword hsecond =>
    rw [List.cons_append, continuation?_word hword, List.singleton_append, List.head?_cons, Option.bind_some, hsecond]
    rfl
  | notPattern hpattern hword hsecond hop =>
    rw [List.cons_append, continuation?_word hword, List.singleton_append, List.head?_cons, Option.bind_some, hsecond]
    cases op with
    | like | glob | regexp | «match» =>
      obtain rfl := Option.some.inj hop
      rfl
    | _ => cases hpattern

theorem IsOperator.length_eq {ops : List Token.Content} {op : BinaryOperator} {negate : Bool}
    (h : IsOperator ops op negate) : ops.length = if negate then 2 else 1 := by
  cases h <;> rfl

/-- What comes next does not belong to a chain of operators that bind at least so tight. -/
def EndsChain (least : Nat) (r : List Token.Content) : Prop :=
  Ends least r ∧ EndsAtom r

theorem Ends.mono {least least' : Nat} {r : List Token.Content} (h : Ends least r) (hle : least ≤ least') :
    Ends least' r := by
  rw [Ends, tightContinuation?, Option.filter_eq_none_iff] at h ⊢
  intro c hc htight
  exact h c hc (decide_eq_true (hle.trans (of_decide_eq_true htight)))

/-- An operand ends where an operator comes. -/
theorem IsOperator.endsAtom {ops : List Token.Content} {op : BinaryOperator} {negate : Bool}
    (h : IsOperator ops op negate) (r : List Token.Content) : EndsAtom (ops ++ r) := by
  have hword {c : Token.Content} {k : Keyword} (hc : keywordContent? c = some k) (r : List Token.Content) :
      EndsAtom (c :: r) := by
    have hkind := fst_eq_word_of_keywordContent? hc
    constructor
    · rintro ⟨⟩
      cases hkind
    · rintro ⟨⟩
      cases hkind
  cases h with
  | mark hmark =>
    constructor
    · rintro ⟨⟩
      cases hmark
    · rintro ⟨⟩
      cases hmark
  | word hc | isNot hc | notPattern _ hc => exact hword hc _

/-- The right side of an operator ends where a looser one comes. -/
theorem Link.endsChain {least : Nat} {l : Link} (h : l.precedence < least) (links : List Link) (r : List Token.Content) :
    EndsChain least (linkTokens (l :: links) ++ r) := by
  rw [linkTokens_cons, List.append_assoc, List.cons_append]
  refine ⟨?_, l.isOperator.endsAtom _⟩
  rw [Ends, tightContinuation?, l.isOperator.continuation?_eq l.isAtom, Option.filter_some]
  exact if_neg fun htight => Nat.not_le_of_lt h (of_decide_eq_true htight)

/-- Where a chain is continued or ends. -/
theorem endsChain_linkTokens {least : Nat} {links : List Link} (h : ∀ l ∈ links.head?, l.precedence < least)
    {r : List Token.Content} (hr : EndsChain least r) : EndsChain least (linkTokens links ++ r) := by
  cases links with
  | nil => exact hr
  | cons l links => exact Link.endsChain (h l rfl) links r

theorem endsAtom_linkTokens (links : List Link) {r : List Token.Content} (hr : EndsAtom r) :
    EndsAtom (linkTokens links ++ r) := by
  cases links with
  | nil => exact hr
  | cons l links =>
    rw [linkTokens_cons, List.append_assoc]
    exact l.isOperator.endsAtom _

/-! ### Reading chains -/

/-- Chains of fewer than `n` operators are read as their trees where `n` levels of nesting are left. -/
def ReadsChains (n : Nat) : Prop :=
  ∀ {least : Nat} {c : Token.Content} {first e : Expr} {links : List Link}, IsAtom c first → links.length < n →
    (∀ l ∈ links, least ≤ l.precedence) → Grouped first links e →
      ((levels n).expression least).Takes (c :: linkTokens links) (EndsChain least) (· = e)

/-- What is left of a chain goes on with operators that bind at least so tight, and then with a looser one. -/
theorem exists_run (least : Nat) (links : List Link) :
    ∃ run rest, links = run ++ rest ∧ (∀ l ∈ run, least ≤ l.precedence) ∧ ∀ l ∈ rest.head?, l.precedence < least := by
  let isTight (l : Link) : Bool := decide (least ≤ l.precedence)
  refine ⟨links.takeWhile isTight, links.dropWhile isTight, List.takeWhile_append_dropWhile.symm, fun l hl => ?_,
    fun l hl => ?_⟩
  · exact of_decide_eq_true (List.mem_takeWhile_imp hl : isTight l = true)
  · have hhead := List.head?_dropWhile_not isTight links
    rw [Option.mem_def.1 hl] at hhead
    exact Nat.lt_of_not_le (of_decide_eq_false hhead)

/-- **What a loop of operators preserves.** The operators so far bind tighter than the one that comes next, and what has
been read is the tree of the chain so far. In the end it is that of the whole chain. -/
theorem takes_links {n : Nat} (hread : ReadsChains n) {least : Nat} {first left e : Expr} {before links : List Link}
    (hlength : links.length ≤ n) (htight : ∀ l ∈ links, least ≤ l.precedence) (hleft : Grouped first before left)
    (hbefore : ∀ l ∈ links.head?, ∀ k ∈ before, l.precedence < k.precedence) (he : Grouped first (before ++ links) e) :
    ((levels n).extend least left).Takes (linkTokens links) (EndsChain least) (· = e) := by
  -- on the number of links, as a round takes the next operator with its whole right side
  induction hcount : links.length using Nat.strong_induction_on generalizing left before links with
  | _ m ih =>
    cases links with
    | nil =>
      rw [List.append_nil] at he
      rw [he.unique hleft]
      exact takes_extend_nil fun r hr => hr.1
    | cons l links =>
      obtain ⟨run, rest, rfl, hrun, hrest⟩ := exists_run l.precedence links
      obtain ⟨right, hright⟩ := exists_grouped l.operand run
      rw [List.length_cons, List.length_append] at hlength hcount
      have hl := hbefore l rfl
      have htight' : ∀ k ∈ rest, least ≤ k.precedence := fun k hk => htight k (by simp [hk])
      -- the right side is read one level below
      have hoperand : ((levels n).expression l.precedence).Takes (l.token :: linkTokens run) (EndsChain l.precedence)
          (· = right) := hread l.isAtom (by omega) hrun hright
      have hcontinue : ((levels n).continueWith left (.binary l.op l.negate)).Takes (l.token :: linkTokens run)
          (EndsChain l.precedence) (· = .binary l.op l.negate left right) := by
        rw [continueWith]
        exact hoperand.map fun e' he' => ⟨_, rfl, by rw [he']⟩
      -- the operators so far, the right side included, bind tighter than what follows
      have hmore : ((levels n).extend least (.binary l.op l.negate left right)).Takes (linkTokens rest)
          (EndsChain least) (· = e) := by
        refine ih rest.length (by omega) (by omega) htight' (.node hl hrun hleft hright) ?_ ?_ rfl
        · intro k hk j hj
          have hlt := hrest k hk
          rw [List.mem_append, List.mem_cons] at hj
          obtain hj | rfl | hj := hj
          · exact hlt.trans (hl j hj)
          · exact hlt
          · exact hlt.trans_le (hrun j hj)
        · rwa [List.append_assoc, List.cons_append]
      rw [linkTokens_cons, linkTokens_append, ← List.cons_append, ← List.append_assoc]
      refine takes_extend_cons l.isOperator.length_eq (fun r => l.isOperator.continuation?_eq l.isAtom _)
        (htight l (by simp)) hcontinue hmore fun r hr => ?_
      exact endsChain_linkTokens hrest ⟨hr.1.mono (htight l (by simp)), hr.2⟩

theorem readsChains (n : Nat) : ReadsChains n := by
  -- on the levels of nesting: the right side of an operator is read one level below
  induction n with
  | zero => exact fun _ hlength => absurd hlength (Nat.not_lt_zero _)
  | succ n ih =>
    intro least c first e links hc hlength htight he
    show Takes ((levels n).unary >>= fun left => (levels n).extend least left) ([c] ++ linkTokens links) _ _
    refine (takes_atom _ hc).bind (fun left hleft => ?_) fun r hr => endsAtom_linkTokens links hr.2
    rw [hleft]
    exact takes_links ih (Nat.le_of_lt_succ hlength) htight (.atom first) (fun _ _ => List.forall_mem_nil _) he

/-- **A text that is a chain of operators is read as the tree of the chain**: the root is the leftmost operator of the
lowest precedence class, and either side is read by the same rule. A chain may be as long as nesting may be deep. -/
theorem parseFormula_chain {text : String} {ts : List Token} {c : Token.Content} {first : Expr} {links : List Link}
    (hc : IsAtom c first) (hlength : links.length < nestingLimit) (htokenize : tokenize text = .ok ts)
    (hts : ts.map Token.content = c :: linkTokens links) :
    ∃ e, parseFormula text = .ok e ∧ ∀ e', Grouped first links e' ↔ e' = e := by
  obtain ⟨e, he⟩ := exists_grouped first links
  have hread : expression.Takes (c :: linkTokens links) (· = []) (· = e) :=
    (readsChains nestingLimit hc hlength (fun _ _ => Nat.zero_le _) he).follow fun r hr =>
      hr ▸ ⟨rfl, nofun, nofun⟩
  obtain ⟨a, hrun, rfl⟩ := takes_formula hread text.utf8ByteSize ts [] hts rfl
  rw [List.append_nil] at hrun
  refine ⟨a, ?_, fun e' => ⟨fun he' => he'.unique he, fun he' => he' ▸ he⟩⟩
  rw [parseFormula, runOn, htokenize]
  exact congrArg Prod.fst hrun

/-- A minus sign and a number. -/
def minusLink {s : String} {i : Int64} (h : numberValue (tokenOf (.number, s)) false = .ok (.integer i)) : Link where
  marks := [(.symbol, "-")]
  op := .subtract
  negate := false
  token := (.number, s)
  operand := .literal (.integer i)
  isOperator := .mark rfl
  isAtom := .number h

/-- The test for NULL at the end of a chain. -/
def isNotNullLink : Link where
  marks := [keywordToken .IS, keywordToken .NOT]
  op := .is
  negate := true
  token := keywordToken .NULL
  operand := .literal .null
  isOperator := .isNot (keywordContent?_keywordToken .IS) (keywordContent?_keywordToken .NOT)
  isAtom := .null (keywordContent?_keywordToken .NULL)

/-- The links of `10 - 4 - 3 IS NOT NULL`. -/
def differenceLinks : List Link :=
  [minusLink (s := "4") (i := 4) rfl, minusLink (s := "3") (i := 3) rfl, isNotNullLink]

theorem grouped_differenceLinks : Grouped (.literal (.integer 10)) differenceLinks
    (.binary .is true
      (.binary .subtract false (.literal (.integer 10))
        (.binary .subtract false (.literal (.integer 4)) (.literal (.integer 3))))
      (.literal .null)) := by
  have hthree : Grouped (.literal (.integer 4)) [minusLink (s := "3") (i := 3) rfl]
      (.binary .subtract false (.literal (.integer 4)) (.literal (.integer 3))) :=
    @Grouped.node _ _ _ [] [] _ (by decide) (by decide) (.atom _) (.atom _)
  have hfour : Grouped (.literal (.integer 10)) (differenceLinks.take 2)
      (.binary .subtract false (.literal (.integer 10))
        (.binary .subtract false (.literal (.integer 4)) (.literal (.integer 3)))) :=
    @Grouped.node _ _ _ [] _ (minusLink (s := "4") (i := 4) rfl) (by decide) (by decide) (.atom _) hthree
  exact @Grouped.node _ _ _ _ [] isNotNullLink (by decide) (by decide) hfour (.atom _)

theorem parseFormula_difference :
    IsAtom (.number, "10") (.literal (.integer 10)) ∧ differenceLinks.length < nestingLimit ∧
      (∃ ts, tokenize "10-4 - 3 IS NOT\nNULL" = .ok ts ∧
        ts.map Token.content = (.number, "10") :: linkTokens differenceLinks) ∧
      parseFormula "10-4 - 3 IS NOT\nNULL" = .ok
        (.binary .is true
          (.binary .subtract false (.literal (.integer 10))
            (.binary .subtract false (.literal (.integer 4)) (.literal (.integer 3))))
          (.literal .null)) := by
  have hc : IsAtom (.number, "10") (.literal (.integer 10)) := .number rfl
  have hlength : differenceLinks.length < nestingLimit := by decide
  have htokens : ∃ ts, tokenize "10-4 - 3 IS NOT\nNULL" = .ok ts ∧
      ts.map Token.content = (.number, "10") :: linkTokens differenceLinks :=
    ⟨[⟨.number, "10", 0⟩, ⟨.symbol, "-", 2⟩, ⟨.number, "4", 3⟩, ⟨.symbol, "-", 5⟩, ⟨.number, "3", 7⟩, ⟨.word, "IS", 9⟩,
      ⟨.word, "NOT", 12⟩, ⟨.word, "NULL", 16⟩], by decide +kernel, by decide +kernel⟩
  refine ⟨hc, hlength, htokens, ?_⟩
  obtain ⟨ts, htokenize, hts⟩ := htokens
  obtain ⟨e, he, htree⟩ := parseFormula_chain hc hlength htokenize hts
  rw [he, (htree _).1 grouped_differenceLinks]

end SqlFormula.Parser
