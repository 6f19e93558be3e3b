import SqlFormula.Parse.Expression
import SqlFormula.Proofs.Parse.Printing

/-!
# Reading literals and names back

The tokens of the notation, and what becomes of those that stand for themselves: literals, fields, declared types and
collations.

## Main statements

- `Parser.takes_literal`, `Parser.takes_field` — operands of one token, or two with a minus sign
- `Parser.takes_typeName?` — declared types with their sizes
-/

namespace SqlFormula

/-! ### The tokens of the notation -/

namespace Piece

/-- The tokens of pieces. -/
def tokens (ps : List Piece) : List Token.Content :=
  ps.flatMap contents

section

variable {p : Piece} {ps qs : List Piece}

@[simp]
theorem tokens_nil : tokens [] = [] :=
  rfl

@[simp]
theorem tokens_cons : tokens (p :: ps) = p.contents ++ tokens ps :=
  List.flatMap_cons

@[simp]
theorem tokens_append : tokens (ps ++ qs) = tokens ps ++ tokens qs :=
  List.flatMap_append

@[simp]
theorem contents_keyword (k : Keyword) : (keyword k).contents = [Parser.keywordToken k] :=
  rfl

@[simp]
theorem tokens_enclosed : tokens (enclosed ps) = Parser.inParentheses (tokens ps) := by
  simp [enclosed, Parser.inParentheses, contents]

@[simp]
theorem tokens_items (pss : List (List Piece)) : tokens (items pss) = Parser.betweenCommas (pss.map tokens) := by
  fun_induction items pss with
  | case1 => rfl
  | case2 ps => rfl
  | case3 ps qs rest ih => simp [ih, Parser.betweenCommas, contents]

theorem tokens_words (words : List String) : tokens (words.map .word) = words.map (Token.Kind.word, ·) := by
  induction words with
  | nil => rfl
  | cons w words ih => simp [ih, contents]

end

end Piece

open Piece

/-! ### Values of literals -/

namespace Text.Hex

theorem digit?_upperDigit {n : Nat} (hn : n < 16) : digit? (upperDigit n) = some n := by
  interval_cases n <;> decide

theorem decode_encodeWith (bytes : List UInt8) : decode (encodeWith upperDigit bytes) = some bytes := by
  induction bytes with
  | nil => rfl
  | cons b bytes ih =>
    have hlt := b.toNat_lt
    have hbyte : UInt8.ofNat (16 * (b.toNat / 16) + b.toNat % 16) = b := by
      rw [Nat.div_add_mod, UInt8.ofNat_toNat]
    rw [encodeWith, List.flatMap_cons, ← encodeWith]
    show decode (upperDigit (b.toNat / 16) :: upperDigit (b.toNat % 16) :: encodeWith upperDigit bytes) = _
    rw [decode, digit?_upperDigit (by omega), digit?_upperDigit (by omega), ih]
    exact congrArg (fun c => some (c :: bytes)) hbyte

end Text.Hex

namespace Parser

open Reader Levels

variable {E : List Token.Content → Prop} {c : Token.Content} {cs : List Token.Content} {P : Expr → Prop}

theorem isFloatText_toString (i : Int) : isFloatText (toString i).toList = false := by
  rw [isFloatText, List.any_eq_false, Number.toList_toString]
  intro c hc
  have hmark : c = '-' ∨ c.isDigit = true := by
    obtain hc | hc := List.mem_append.1 hc
    · split at hc
      · exact .inl (List.mem_singleton.1 hc)
      · nomatch hc
    · exact .inr (Number.isDigit_of_mem_toDigits hc)
  obtain rfl | hdigit := hmark
  · decide
  · simp [Number.ne_of_isDigit hdigit (d := '.') (by decide), Number.ne_of_isDigit hdigit (d := 'e') (by decide),
      Number.ne_of_isDigit hdigit (d := 'E') (by decide)]

/-- The value of a number does not depend on its place. -/
theorem numberValue_congr {t u : Token} {negative : Bool} {v : Value} (htext : t.text = u.text)
    (hu : numberValue u negative = .ok v) : numberValue t negative = .ok v := by
  rw [numberValue] at hu ⊢
  rw [htext]
  split at hu
  · exact hu
  · split at hu
    · exact hu
    · cases hu

theorem numberValue_digits {t : Token} {i : Int64} (ht : t.text = Piece.digits i.toInt.natAbs) {negative : Bool}
    (hsign : negative = decide (i.toInt < 0)) : numberValue t negative = .ok (.integer i) := by
  have htext : (if negative then '-' :: t.text.toList else t.text.toList) = (toString i.toInt).toList := by
    rw [ht, Piece.digits, String.toList_ofList, Number.toList_toString, hsign]
    by_cases hi : i.toInt < 0
    · simp [hi]
    · simp [hi]
  simp only [numberValue, htext, isFloatText_toString, Bool.false_eq_true, if_false, Number.readInt64?_toString]

/-! ### Declared types -/

theorem takes_nextIsSymbol_not {s : String} (h : ∀ r, E r → r.head? ≠ some (.symbol, s)) :
    (nextIsSymbol s).Takes [] E (· = false) := by
  intro stop ts rest hts hrest
  obtain rfl := List.map_eq_nil_iff.1 hts
  refine ⟨_, rfl, ?_⟩
  cases rest with
  | nil => rfl
  | cons t rest =>
    refine Bool.eq_false_iff.2 fun hsymbol => h _ hrest ?_
    simp only [List.nil_append, List.head?_cons, Option.any_some, Token.isSymbol, Bool.and_eq_true,
      beq_iff_eq] at hsymbol
    rw [List.map_cons, List.head?_cons, Token.content, hsymbol.1, hsymbol.2]

theorem takes_typeSize (i : Int64) : typeSize.Takes (Piece.integer i.toInt).contents E (· = some i) := by
  have hnumber (negative : Bool) (hsign : negative = decide (i.toInt < 0)) :
      Takes (do
        let t ← nextToken "type size"
        if t.kind = .number then return sizeOf (← ofExcept (numberValue t negative))
        else fail (unexpected t "type size"))
      [(.number, Piece.digits i.toInt.natAbs)] E (· = some i) := by
    refine (takes_nextToken _).map fun t ht => ?_
    have hkind : t.kind = .number := congrArg Prod.fst ht
    rw [if_pos hkind, numberValue_digits (congrArg Prod.snd ht) hsign]
    exact ⟨_, rfl, rfl⟩
  rw [typeSize, Piece.contents]
  by_cases hi : i.toInt < 0
  · rw [if_pos hi]
    exact takes_eatSymbol_bind (hnumber true (decide_eq_true hi).symm)
  · rw [if_neg hi, List.nil_append]
    refine takes_eatSymbol_not_bind rfl ?_
    show Takes (eatSymbol "+" >>= _) _ _ _
    exact takes_eatSymbol_not_bind rfl (hnumber false (decide_eq_false hi).symm)

/-- No word comes next. -/
def NoWord (r : List Token.Content) : Prop :=
  ∀ c ∈ r.head?, c.1 ≠ .word

theorem typeWord?_of_noWord {ts : List Token} (h : NoWord (ts.map Token.content)) : typeWord? ts = none := by
  cases ts with
  | nil => rfl
  | cons t ts =>
    have hkind : (t.kind == .word) = false := beq_eq_false_iff_ne.2 (h _ rfl)
    rw [typeWord?, List.head?_cons, Option.filter_some, hkind]
    rfl

/-- The rounds of the loop. The last word comes first in the list. -/
theorem takes_typeWordLoop {words : List String} (hwords : ∀ w ∈ words, Keyword.lookup w = none)
    (hE : ∀ r, E r → NoWord r) (read : List String) :
    Takes (loop typeWord? (fun word words => do
        skip 1
        pure (word :: words)) (fun _ _ => (Consuming.skip 0).bind_left _) read)
      (words.map (Token.Kind.word, ·)) E (· = words.reverse ++ read) := by
  induction words generalizing read with
  | nil => exact takes_loop_nil fun ts hts => typeWord?_of_noWord (hE _ hts)
  | cons w words ih =>
    obtain ⟨hw, hrest⟩ := List.forall_mem_cons.1 hwords
    rw [List.reverse_cons, List.append_assoc]
    refine takes_loop_cons (B := (· = w)) (F := Anything) (List.cons_ne_nil (.word, w) [])
      (fun ts r _ hts => ?_) (fun b hb => ?_) (ih hrest (w :: read)) fun _ _ => trivial
    · obtain ⟨t, us, rfl, ht, -⟩ := List.map_eq_cons_iff.1 hts
      have hkind : t.kind = .word := congrArg Prod.fst ht
      have hkeyword : t.keyword? = none := (keyword?_eq ht).trans hw
      refine ⟨t.text, ?_, congrArg Prod.snd ht⟩
      rw [typeWord?, List.head?_cons, Option.filter_some, hkind, hkeyword]
      rfl
    · exact takes_skip_one.map fun _ _ => ⟨_, rfl, congrArg (· :: read) hb⟩

theorem takes_typeWords {words : List String} (hwords : ∀ w ∈ words, Keyword.lookup w = none)
    (hE : ∀ r, E r → NoWord r) : typeWords.Takes (words.map (Token.Kind.word, ·)) E (· = words) := by
  rw [typeWords]
  refine (takes_typeWordLoop hwords hE []).map fun read hread => ?_
  rw [hread, List.append_nil, List.reverse_reverse]
  exact ⟨_, rfl, rfl⟩

theorem intercalate_words (t : TypeName) : " ".intercalate t.words = t.name := by
  refine String.toList_inj.1 ?_
  rw [String.toList_intercalate, TypeName.words, List.map_map]
  have hmap : (String.toList ∘ String.ofList) = id := funext fun cs => String.toList_ofList
  rw [hmap, List.map_id]
  exact List.intercalate_splitOn ' '

theorem words_ne_nil (t : TypeName) : t.words ≠ [] := by
  rw [TypeName.words, ne_eq, List.map_eq_nil_iff]
  exact List.splitOn_ne_nil ' ' _

/-- A declared type is read back, if it is followed by neither a word nor an opening parenthesis. -/
theorem takes_typeName? {t : TypeName} (h : t.Expressible)
    (hE : ∀ r, E r → NoWord r ∧ r.head? ≠ some (.symbol, "(")) :
    typeName?.Takes (tokens t.pieces) E (· = some t) := by
  obtain ⟨hwords, hdeclare⟩ := h
  have hkeywords : ∀ w ∈ t.words, Keyword.lookup w = none := fun w hw => (hwords w hw).2
  have hempty : t.words.isEmpty = false := by
    rw [List.isEmpty_eq_false_iff]
    exact words_ne_nil t
  rw [typeName?, TypeName.pieces, tokens_append, tokens_words]
  by_cases hsizes : t.sizes = []
  · -- without sizes no parenthesis may follow
    rw [hsizes]
    refine (takes_typeWords (E := E) hkeywords fun r hr => (hE r hr).1).bind (fun words heq => ?_) fun r hr => hr
    rw [heq, hempty]
    refine (takes_nextIsSymbol_not fun r hr => (hE r hr).2).map fun found hfound => ?_
    rw [hfound, intercalate_words]
    exact ⟨_, rfl, congrArg some (hsizes ▸ hdeclare.symm)⟩
  · have hmap : (t.sizes.map fun i => [Piece.integer i.toInt]).map tokens =
        t.sizes.map fun i => (Piece.integer i.toInt).contents := by
      rw [List.map_map]
      exact List.map_congr_left fun i _ => List.append_nil _
    have hread : (commaList typeSize).Takes (betweenCommas (t.sizes.map fun i => (Piece.integer i.toInt).contents))
        (fun r => r.head? = some (.symbol, ")")) (· = t.sizes.map some) :=
      takes_commaList (E := Anything) hsizes (fun i _ => takes_typeSize i) (fun _ => trivial) fun r hr =>
        ⟨trivial, by rw [NoComma, hr]; decide⟩
    rw [List.isEmpty_eq_false_iff.2 hsizes, if_neg Bool.false_ne_true, tokens_enclosed, tokens_items, hmap]
    refine (takes_typeWords (E := fun r => r.head? = some (.symbol, "(")) hkeywords fun r hr c hc => ?_).bind
      (fun words heq => ?_) fun r _ => rfl
    · obtain rfl := Option.some.inj (hr.symm.trans hc)
      decide
    · rw [heq, hempty]
      refine takes_nextIsSymbol_bind ?_
      refine (takes_parenthesized hread fun _ => rfl).map fun sizes hsizes => ?_
      rw [hsizes, intercalate_words, List.filterMap_map]
      refine ⟨_, rfl, congrArg some ?_⟩
      rw [hdeclare]
      simp [TypeName.declare]

/-! ### Names -/

theorem lookup_tag (c : Collation) : Collation.lookup c.tag = some c := by
  cases c <;> decide

theorem lookup_name (f : Builtin) : Builtin.lookup f.name = some f := by
  cases f <;> decide

/-- The name of one function is a reserved word as well. -/
theorem keywordContent?_name (f : Builtin) :
    keywordContent? (.word, f.name) = none ∨ keywordContent? (.word, f.name) = some .REPLACE := by
  cases f <;> decide

theorem eq_of_keywordContent?_name {f : Builtin} {k : Keyword} (h : keywordContent? (.word, f.name) = some k) :
    k = .REPLACE := by
  obtain hnone | hreplace := keywordContent?_name f
  · rw [h] at hnone
    cases hnone
  · exact Option.some.inj (h.symm.trans hreplace)

theorem takes_collationName (c : Collation) : collationName.Takes [(.word, c.tag)] E (· = c) := by
  rw [collationName]
  refine (takes_nextToken _).map fun t ht => ?_
  have hkind : t.kind = .word := congrArg Prod.fst ht
  have htext : t.text = c.tag := congrArg Prod.snd ht
  rw [if_pos (.inl hkind), htext, lookup_tag]
  exact ⟨_, rfl, rfl⟩

/-- No point comes next. -/
def NoPoint (r : List Token.Content) : Prop :=
  r.head? ≠ some (.symbol, ".")

theorem takes_nameParts (first : String) (hE : ∀ r, E r → NoPoint r) : (nameParts first).Takes [] E (· = first) := by
  refine takes_loop_nil fun ts hts => ?_
  match ts with
  | [] => rfl
  | [t] => rfl
  | point :: t :: rest =>
    have hpoint : point.isSymbol "." = false := by
      refine Bool.eq_false_iff.2 fun hsymbol => hE _ hts ?_
      simp only [Token.isSymbol, Bool.and_eq_true, beq_iff_eq] at hsymbol
      rw [List.map_cons, List.head?_cons, Token.content, hsymbol.1, hsymbol.2]
    rw [pointAndName?, hpoint]
    rfl

/-- Whether a token can be a name, by its content. -/
def isIdentifierContent (c : Token.Content) : Bool :=
  match c.1 with
  | .quotedIdentifier => true
  | .word => (keywordContent? c).isNone
  | _ => false

theorem isIdentifier_eq {t : Token} (h : t.content = c) : t.isIdentifier = isIdentifierContent c := by
  rw [← h]
  rfl

/-- The tokens of further parts of a name, each after its point. -/
def afterPoints (names : List Token.Content) : List Token.Content :=
  names.flatMap fun c => [(.symbol, "."), c]

/-- The parts of a name are put together with points between them. -/
theorem takes_namePath {names : List Token.Content} (hnames : ∀ c ∈ names, isIdentifierContent c = true)
    (hE : ∀ r, E r → NoPoint r) (first : String) :
    (nameParts first).Takes (afterPoints names) E (· = ".".intercalate (first :: names.map Prod.snd)) := by
  induction names generalizing first with
  | nil => exact takes_nameParts first hE
  | cons c names ih =>
    obtain ⟨hc, hrest⟩ := List.forall_mem_cons.1 hnames
    refine takes_loop_cons (B := (· = c.2)) (F := Anything) (List.cons_ne_nil (.symbol, ".") [c])
      (fun ts r _ hts => ?_) (fun part hpart => ?_) (ih hrest (first ++ "." ++ c.2)) fun _ _ => trivial
    · obtain ⟨point, us, rfl, hpoint, hus⟩ := List.map_eq_cons_iff.1 hts
      obtain ⟨t, vs, rfl, ht, -⟩ := List.map_eq_cons_iff.1 hus
      have hsymbol : point.isSymbol "." = true := isSymbol_eq hpoint "."
      refine ⟨t.text, ?_, congrArg Prod.snd ht⟩
      rw [pointAndName?, hsymbol, isIdentifier_eq ht, hc]
      rfl
    · rw [hpart]
      exact (takes_skip 2 rfl).map fun _ _ => ⟨_, rfl, rfl⟩

/-! ### Operands of one token -/

theorem fst_eq_word_of_keywordContent? {k : Keyword} (h : keywordContent? c = some k) : c.1 = .word := by
  obtain ⟨kind, s⟩ := c
  cases kind with
  | word => rfl
  | _ => cases h

theorem not_mem_signs_of_word (h : c.1 = .word) : c ∉ [(.symbol, "-"), (.symbol, "+")] := by
  simp only [List.mem_cons, List.not_mem_nil, or_false, not_or]
  exact ⟨fun hc => by simp [hc] at h, fun hc => by simp [hc] at h⟩

section

variable (inner : Levels)

theorem takes_unary_of_primary (hnot : keywordContent? c ≠ some .NOT) (hsign : c ∉ [(.symbol, "-"), (.symbol, "+")])
    (h : inner.primary.Takes (c :: cs) E P) : inner.unary.Takes (c :: cs) E P := by
  rw [unary]
  refine takes_eatKeyword_not_bind hnot (takes_peek?_bind fun t ht => ?_)
  simp only [List.mem_cons, List.not_mem_nil, or_false, not_or] at hsign
  have hsymbol (s : String) (hne : c ≠ (.symbol, s)) : t.isSymbol s = false := by
    rw [isSymbol_eq ht, isSymbolContent, Bool.and_eq_false_iff, beq_eq_false_iff_ne, beq_eq_false_iff_ne]
    by_contra hboth
    simp only [not_or, not_not] at hboth
    exact hne (Prod.ext hboth.1 hboth.2)
  have hsignOperator : signOperator? t = none := by
    rw [signOperator?, hsymbol "-" hsign.1, hsymbol "+" hsign.2]
    rfl
  rw [Option.bind_some, hsignOperator]
  exact h

/-- What an operand is that starts with a word depends on the word. -/
theorem takes_unary_of_word (hword : c.1 = .word) (hnot : keywordContent? c ≠ some .NOT)
    (h : inner.wordOperand.Takes (c :: cs) E P) : inner.unary.Takes (c :: cs) E P := by
  refine takes_unary_of_primary inner hnot (not_mem_signs_of_word hword) ?_
  rw [primary]
  refine takes_peek?_bind fun t ht => ?_
  have hkind : t.kind = .word := (congrArg Prod.fst ht).trans hword
  simp only [hkind]
  exact h

theorem takes_literalWord {k : Keyword} {v : Value} (hc : keywordContent? c = some k)
    (h : (k, v) = (.NULL, .null) ∨ (k, v) = (.TRUE, .boolean true) ∨ (k, v) = (.FALSE, .boolean false)) :
    inner.unary.Takes [c] E (· = .literal v) := by
  have hword : c.1 = .word := fst_eq_word_of_keywordContent? hc
  have hnot : keywordContent? c ≠ some .NOT := by
    rw [hc]
    rcases h with h | h | h <;> cases h <;> decide
  refine takes_unary_of_word inner hword hnot ?_
  rw [wordOperand]
  refine (takes_nextToken _).bind_end fun t ht => ?_
  refine (takes_nextIsSymbol "(").map fun isCall _ => ?_
  rw [keyword?_eq ht, hc]
  rcases h with h | h | h <;> cases h <;> exact ⟨_, rfl, rfl⟩

theorem takes_number {s : String} {v : Value} (h : ∀ t : Token, t.text = s → numberValue t false = .ok v) :
    inner.unary.Takes [(.number, s)] E (· = .literal v) := by
  refine takes_unary_of_primary inner nofun (by simp) ?_
  rw [primary]
  refine takes_peek?_bind fun t ht => ?_
  have hkind : t.kind = .number := congrArg Prod.fst ht
  simp only [hkind]
  refine takes_skip_one.map fun _ _ => ?_
  rw [h t (congrArg Prod.snd ht)]
  exact ⟨_, rfl, rfl⟩

theorem takes_natural {i : Int64} (hi : ¬i.toInt < 0) :
    inner.unary.Takes [(.number, Piece.digits i.toInt.natAbs)] E (· = .literal (.integer i)) :=
  takes_number inner fun _ ht => numberValue_digits ht (decide_eq_false hi).symm

/-- The minus sign belongs to the number. -/
theorem takes_negative {i : Int64} (hi : i.toInt < 0) :
    inner.unary.Takes [(.symbol, "-"), (.number, Piece.digits i.toInt.natAbs)] E (· = .literal (.integer i)) := by
  rw [unary]
  refine takes_eatKeyword_not_bind (keywordContent?_symbol_ne "-" .NOT) (takes_peek?_bind fun t ht => ?_)
  have hsign : signOperator? t = some .negate := by
    rw [signOperator?, isSymbol_eq ht]
    rfl
  rw [Option.bind_some, hsign]
  refine takes_skip_one.bind_any fun _ _ => ?_
  rw [signed]
  refine takes_peek?_bind fun t ht => ?_
  have hkind : t.kind = .number := congrArg Prod.fst ht
  simp only [hkind, and_self, if_true]
  refine takes_skip_one.map fun _ _ => ?_
  rw [numberValue_digits (congrArg Prod.snd ht) (decide_eq_true hi).symm]
  exact ⟨_, rfl, rfl⟩

theorem takes_text (s : String) : inner.unary.Takes [(.string, s)] E (· = .literal (.text s)) := by
  refine takes_unary_of_primary inner nofun (by simp) ?_
  rw [primary]
  refine takes_peek?_bind fun t ht => ?_
  have hkind : t.kind = .string := congrArg Prod.fst ht
  simp only [hkind]
  refine takes_skip_one.map fun _ _ => ⟨_, rfl, ?_⟩
  rw [show t.text = s from congrArg Prod.snd ht]

theorem takes_blob {s : String} {bytes : List UInt8} (h : Text.Hex.decode s.toList = some bytes) :
    inner.unary.Takes [(.blob, s)] E (· = .literal (.blob bytes)) := by
  refine takes_unary_of_primary inner nofun (by simp) ?_
  rw [primary]
  refine takes_peek?_bind fun t ht => ?_
  have hkind : t.kind = .blob := congrArg Prod.fst ht
  have hvalue : blobValue t = .ok (.blob bytes) := by
    rw [blobValue, show t.text = s from congrArg Prod.snd ht, h]
  simp only [hkind]
  refine takes_skip_one.map fun _ _ => ?_
  rw [hvalue]
  exact ⟨_, rfl, rfl⟩

/-- A literal is read back from its tokens, whatever follows. -/
theorem takes_literal {v : Value} (hv : v.IsLiteral) : inner.unary.Takes (tokens v.literalPieces) E (· = .literal v) := by
  cases v with
  | null => exact takes_literalWord inner (keywordContent?_keywordToken .NULL) (.inl rfl)
  | boolean b =>
    cases b with
    | false => exact takes_literalWord inner (keywordContent?_keywordToken .FALSE) (.inr (.inr rfl))
    | true => exact takes_literalWord inner (keywordContent?_keywordToken .TRUE) (.inr (.inl rfl))
  | integer i =>
    rw [Value.literalPieces, tokens_cons, tokens_nil, List.append_nil, Piece.contents]
    by_cases hi : i.toInt < 0
    · rw [if_pos hi]
      exact takes_negative inner hi
    · rw [if_neg hi]
      exact takes_natural inner hi
  | text s => exact takes_text inner s
  | blob bytes =>
    refine takes_blob inner ?_
    rw [Text.Hex.encodeUpper, String.toList_ofList, Text.Hex.decode_encodeWith]
  | float | dateTime | array | object => exact hv.elim

/-- A field is read back from its name, if no point follows. -/
theorem takes_field (path : String) (hE : ∀ r, E r → NoPoint r) :
    inner.unary.Takes [(.quotedIdentifier, path)] E (· = .field path) := by
  refine takes_unary_of_primary inner nofun (by simp) ?_
  rw [primary]
  refine takes_peek?_bind fun t ht => ?_
  have hkind : t.kind = .quotedIdentifier := congrArg Prod.fst ht
  simp only [hkind]
  refine takes_skip_one.bind_end fun _ _ => (takes_nameParts t.text hE).map fun name hname => ⟨_, rfl, ?_⟩
  rw [hname, show t.text = path from congrArg Prod.snd ht]

/-- A word that is not reserved is a field, with the names after the points behind it, if it is not the name of a function
that is called. -/
theorem takes_fieldPath {s : String} (hs : Keyword.lookup s = none) {names : List Token.Content}
    (hnames : ∀ c ∈ names, isIdentifierContent c = true) (hE : ∀ r, E r → NoPoint r ∧ r.head? ≠ some (.symbol, "(")) :
    inner.unary.Takes ((.word, s) :: afterPoints names) E
      (· = .field (".".intercalate (s :: names.map Prod.snd))) := by
  have hkeyword : keywordContent? (.word, s) = none := hs
  refine takes_unary_of_word inner rfl (by rw [hkeyword]; exact nofun) ?_
  rw [wordOperand, ← List.singleton_append]
  refine (takes_nextToken _).bind_any fun t ht => ?_
  rw [← List.nil_append (afterPoints names)]
  refine (takes_nextIsSymbol_not fun _ hr => hr).bind (fun isCall hcall => ?_) fun r hr => ?_
  · rw [hcall, (keyword?_eq ht).trans hkeyword]
    refine (takes_namePath hnames (fun r hr => (hE r hr).1) t.text).map fun name hname => ⟨_, rfl, ?_⟩
    rw [hname, show t.text = s from congrArg Prod.snd ht]
  · cases names with
    | nil => exact (hE r hr).2
    | cons c names => exact fun heq => absurd (Option.some.inj heq) (by decide)

/-- A word that is not reserved is a field, if neither a point nor an opening parenthesis follows. -/
theorem takes_fieldWord {s : String} (hs : Keyword.lookup s = none)
    (hE : ∀ r, E r → NoPoint r ∧ r.head? ≠ some (.symbol, "(")) : inner.unary.Takes [(.word, s)] E (· = .field s) :=
  takes_fieldPath inner hs (List.forall_mem_nil _) hE

end

end Parser

end SqlFormula
