import SqlFormula.Proofs.Token.Piece

/-!
# Texts one after the other

The tokens of two texts with a line break between them are the tokens of the first and those of the second, further on
by the length of the first. Only a comment that is never closed goes past the line break.

## Main definitions

- `endsInComment` — a text ends inside a comment that is never closed
- `Token.shift` — a token some bytes further on
- `Opens` — what a text is taken apart into, whatever follows it

## Main statements

- `tokensFrom_append` — the tokens of a text, then those of what follows it on a new line
- `tokensFrom_add` — tokens further on
- `tokenize_batch` — two texts with a semicolon between them
- `tokenize_opens`, `tokenize_between` — a text behind and between known tokens
-/

namespace SqlFormula

open Text

/-- Whether a comment is closed, given the text after its `/*`. -/
def closesComment : List Char → Bool
  | [] => false
  | '*' :: '/' :: _ => true
  | _ :: cs => closesComment cs

/-- Whether all comments in front of the next token are closed. -/
def closesFiller : List Char → Bool
  | [] => true
  | '-' :: '-' :: cs => closesFiller (dropLine cs)
  | '/' :: '*' :: cs => closesComment cs && closesFiller (dropComment cs)
  | c :: cs => if isBlank c then closesFiller cs else true
termination_by cs => cs.length
decreasing_by
  all_goals simp only [List.length_cons]
  · have := length_dropLine_le cs; omega
  · have := length_dropComment_le cs; omega
  · omega

/-- Whether a text ends inside a comment between `/*` and `*/` that is never closed. -/
def endsInComment (cs : List Char) : Bool :=
  match _hf : dropFiller cs with
  | [] => !closesFiller cs
  | c :: after =>
    match _hl : Lexeme.read c after with
    | .error _ => false
    | .ok l => endsInComment l.rest
termination_by cs.length
decreasing_by
  have h₁ := Lexeme.length_read_lt _hl
  have h₂ := length_dropFiller_le cs
  rw [_hf] at h₂
  omega

theorem endsInComment_eq (cs : List Char) : endsInComment cs =
    (match dropFiller cs with
    | [] => !closesFiller cs
    | c :: after =>
      match Lexeme.read c after with
      | .error _ => false
      | .ok l => endsInComment l.rest) := by
  rw [endsInComment]
  split
  · next h => rw [h]
  · next c after h =>
    rw [h]
    dsimp only
    split
    · next heq => rw [heq]
    · next heq => rw [heq]

/-! ### Blanks and comments -/

theorem closesFiller_line (cs : List Char) : closesFiller ('-' :: '-' :: cs) = closesFiller (dropLine cs) := by
  rw [closesFiller.eq_def]
  rfl

theorem closesFiller_comment (cs : List Char) :
    closesFiller ('/' :: '*' :: cs) = (closesComment cs && closesFiller (dropComment cs)) := by
  rw [closesFiller.eq_def]
  rfl

theorem closesFiller_blank {c : Char} {cs : List Char} (h : isBlank c = true) :
    closesFiller (c :: cs) = closesFiller cs := by
  rw [closesFiller.eq_def]
  split
  · next heq => cases heq
  · next heq =>
    cases heq
    cases h
  · next heq =>
    cases heq
    cases h
  · next heq =>
    cases heq
    exact if_pos h

/-- A line break does not complete the start of a comment. -/
theorem head?_append_ne {c d e : Char} {cs rest : List Char} (h : ∀ ds, c = d → cs = e :: ds → False)
    (he : e ≠ '\n') : c = d → (cs ++ '\n' :: rest).head? ≠ some e := by
  intro hc
  cases cs with
  | nil => exact fun heq => he (Option.some.inj heq).symm
  | cons x cs =>
    intro heq
    obtain rfl := Option.some.inj heq
    exact h cs hc rfl

/-- The line ends in front of what follows it at the latest. -/
theorem dropFiller_dropLine_append (cs rest : List Char) :
    dropFiller (dropLine (cs ++ '\n' :: rest)) = dropFiller (dropLine cs ++ '\n' :: rest) := by
  induction cs with
  | nil => exact (dropFiller_blank (by decide) rest).symm
  | cons c cs ih =>
    rw [List.cons_append, dropLine, dropLine]
    split
    · rfl
    · exact ih

theorem dropComment_append {cs : List Char} (h : closesComment cs = true) (rest : List Char) :
    dropComment (cs ++ rest) = dropComment cs ++ rest := by
  fun_induction closesComment cs with
  | case1 => cases h
  | case2 cs => rfl
  | case3 c cs hne ih =>
    have hopen (ds : List Char) (heq : cs ++ rest = '/' :: ds) (hc : c = '*') : False := by
      cases cs with
      | nil => cases h
      | cons d cs =>
        obtain ⟨rfl, -⟩ := List.cons.inj heq
        exact hne cs hc rfl
    rw [List.cons_append, dropComment, dropComment, ih h]
    · exact fun ds hc heq => hne ds hc heq
    · exact fun ds hc heq => hopen ds heq hc

theorem dropComment_eq_nil {cs : List Char} (h : closesComment cs = false) : dropComment cs = [] := by
  fun_induction closesComment cs with
  | case1 => rfl
  | case2 => cases h
  | case3 c cs hne ih =>
    rw [dropComment, ih h]
    exact hne

/-- What is dropped in front of the next token does not depend on what follows on a new line. -/
theorem dropFiller_append {cs : List Char} (h : dropFiller cs = [] → closesFiller cs = true) (rest : List Char) :
    dropFiller (cs ++ '\n' :: rest) =
      match dropFiller cs with
      | [] => dropFiller rest
      | c :: after => c :: (after ++ '\n' :: rest) := by
  fun_induction dropFiller cs with
  | case1 => exact dropFiller_blank (by decide) rest
  | case2 cs ih =>
    rw [closesFiller_line] at h
    rw [List.cons_append, List.cons_append, dropFiller_line, dropFiller_dropLine_append]
    exact ih h
  | case3 cs ih =>
    rw [closesFiller_comment, Bool.and_eq_true] at h
    -- a comment that is never closed leaves nothing
    have hclosed : closesComment cs = true := by
      by_contra hopen
      rw [Bool.not_eq_true] at hopen
      have hnil : dropFiller (dropComment cs) = [] := by
        rw [dropComment_eq_nil hopen, dropFiller_nil]
      exact absurd (h hnil).1 (Bool.eq_false_iff.1 hopen)
    rw [List.cons_append, List.cons_append, dropFiller_comment, dropComment_append hclosed]
    exact ih fun hnil => (h hnil).2
  | case4 c cs hline hcomment hblank ih =>
    rw [closesFiller_blank hblank] at h
    have happended : dropFiller (c :: (cs ++ '\n' :: rest)) = _ :=
      dropFiller_cons (head?_append_ne hline (by decide)) (head?_append_ne hcomment (by decide))
    rw [List.cons_append, happended, if_pos hblank]
    exact ih h
  | case5 c cs hline hcomment hblank =>
    have happended : dropFiller (c :: (cs ++ '\n' :: rest)) = _ :=
      dropFiller_cons (head?_append_ne hline (by decide)) (head?_append_ne hcomment (by decide))
    rw [List.cons_append, happended, if_neg hblank]

/-! ### Tokens end at a line break -/

namespace Lexeme

/-- A token with more text after it. -/
def before (l : Lexeme) (cs : List Char) : Lexeme :=
  { l with rest := l.rest ++ cs }

theorem takeWhile_newline {p : Char → Bool} (hp : p '\n' = false) (cs rest : List Char) :
    (cs ++ '\n' :: rest).takeWhile p = cs.takeWhile p ∧
      (cs ++ '\n' :: rest).dropWhile p = cs.dropWhile p ++ '\n' :: rest := by
  induction cs with
  | nil => simp [hp]
  | cons c cs ih =>
    rw [List.cons_append, List.takeWhile_cons, List.takeWhile_cons, List.dropWhile_cons, List.dropWhile_cons]
    split
    · exact ⟨congrArg _ ih.1, ih.2⟩
    · exact ⟨rfl, rfl⟩

theorem takeWhile_isDigit_newline (cs rest : List Char) :
    (cs ++ '\n' :: rest).takeWhile Char.isDigit = cs.takeWhile Char.isDigit ∧
      (cs ++ '\n' :: rest).dropWhile Char.isDigit = cs.dropWhile Char.isDigit ++ '\n' :: rest :=
  takeWhile_newline (by decide) cs rest

theorem splitFraction_newline (cs rest : List Char) :
    splitFraction (cs ++ '\n' :: rest) = ((splitFraction cs).1, (splitFraction cs).2 ++ '\n' :: rest) := by
  cases cs with
  | nil => rfl
  | cons c cs =>
    obtain ⟨htake, hdrop⟩ := takeWhile_isDigit_newline cs rest
    by_cases hc : c = '.'
    · rw [hc, List.cons_append, splitFraction, splitFraction, htake, hdrop]
    · rw [List.cons_append, splitFraction, splitFraction]
      · rfl
      · exact fun _ heq => hc (List.cons.inj heq).1
      · exact fun _ heq => hc (List.cons.inj heq).1

theorem startsWithDigit_newline (cs rest : List Char) :
    startsWithDigit (cs ++ '\n' :: rest) = startsWithDigit cs := by
  cases cs with
  | nil => rfl
  | cons c cs => rfl

theorem splitExponent_newline (cs rest : List Char) :
    splitExponent (cs ++ '\n' :: rest) = ((splitExponent cs).1, (splitExponent cs).2 ++ '\n' :: rest) := by
  match cs with
  | [] => rfl
  | [e] =>
    simp only [List.cons_append, List.nil_append, splitExponent]
    split <;> rfl
  | e :: d :: ds =>
    obtain ⟨htake, hdrop⟩ := takeWhile_isDigit_newline (d :: ds) rest
    obtain ⟨htake', hdrop'⟩ := takeWhile_isDigit_newline ds rest
    rw [List.cons_append] at htake hdrop
    simp only [List.cons_append, splitExponent]
    rw [htake, hdrop, htake', hdrop', startsWithDigit_newline]
    split
    · split
      · rfl
      · split <;> rfl
    · rfl

theorem number_newline (cs rest : List Char) : number (cs ++ '\n' :: rest) = (number cs).before ('\n' :: rest) := by
  obtain ⟨htake, hdrop⟩ := takeWhile_isDigit_newline cs rest
  simp only [number, before, htake, hdrop, splitFraction_newline, splitExponent_newline]

theorem untilClosed_newline {close : Char} (hclose : close ≠ '\n') {cs text left : List Char}
    (h : untilClosed close cs = some (text, left)) (rest : List Char) :
    untilClosed close (cs ++ '\n' :: rest) = some (text, left ++ '\n' :: rest) := by
  have hliteral := untilClosed_eq_some_iff.1 h
  obtain ⟨used, rfl, hused⟩ := hliteral.exists_append
  rw [List.append_assoc]
  refine untilClosed_eq_some_iff.2 (hused _ fun hne => ?_)
  cases left with
  | nil => exact fun heq => hclose (Option.some.inj heq).symm
  | cons d left => exact hliteral.head?_ne hne

theorem delimited_newline {kind : Token.Kind} {close : Char} (hclose : close ≠ '\n') {cs : List Char} {l : Lexeme}
    (h : delimited kind close cs = .ok l) (rest : List Char) :
    delimited kind close (cs ++ '\n' :: rest) = .ok (l.before ('\n' :: rest)) := by
  rw [delimited] at h
  split at h
  · next text left hclosed =>
    cases h
    rw [delimited, untilClosed_newline hclose hclosed]
    rfl
  · cases h

theorem symbol_newline (c : Char) (cs rest : List Char) :
    symbol c (cs ++ '\n' :: rest) = (symbol c cs).before ('\n' :: rest) := by
  cases cs with
  | nil =>
    have hshort : isLongSymbol c '\n' = false := by
      simp [isLongSymbol]
    rw [List.nil_append]
    show (if isLongSymbol c '\n' then _ else _) = _
    rw [hshort]
    rfl
  | cons d ds =>
    rw [List.cons_append, symbol, symbol]
    split <;> rfl

/-- **A token does not go on after a line break.** -/
theorem read_newline {c : Char} {cs : List Char} {l : Lexeme} (h : read c cs = .ok l) (rest : List Char) :
    read c (cs ++ '\n' :: rest) = .ok (l.before ('\n' :: rest)) := by
  have hhead : ((cs ++ '\n' :: rest).head? == some '\'') = (cs.head? == some '\'') := by
    cases cs with
    | nil => rfl
    | cons d ds => rfl
  rw [read] at h ⊢
  rw [startsWithDigit_newline, hhead]
  split_ifs at h ⊢ with hnumber hblob hstring hdouble hback hbracket hword
  · cases h
    rw [← List.cons_append, number_newline]
  · -- there is an apostrophe to be taken off
    have htail : (cs ++ '\n' :: rest).tail = cs.tail ++ '\n' :: rest := by
      cases cs with
      | nil => simp at hblob
      | cons d ds => rfl
    rw [htail]
    exact delimited_newline (by decide) h rest
  · exact delimited_newline (by decide) h rest
  · exact delimited_newline (by decide) h rest
  · exact delimited_newline (by decide) h rest
  · exact delimited_newline (by decide) h rest
  · cases h
    have hpart : isWordPart '\n' = false := isWordPart_of_ascii (by decide)
    obtain ⟨htake, hdrop⟩ := takeWhile_newline hpart (c :: cs) rest
    rw [← List.cons_append, htake, hdrop]
    rfl
  · cases h
    rw [symbol_newline]

end Lexeme

/-! ### Tokens of a text and of what follows it -/

theorem byteLength_eq (cs : List Char) : byteLength cs = String.utf8Len cs := by
  have hsum (cs : List Char) (n : Nat) : cs.foldl (fun n c => n + c.utf8Size) n = n + String.utf8Len cs := by
    induction cs generalizing n with
    | nil => rfl
    | cons c cs ih =>
      rw [List.foldl_cons, ih, String.utf8Len_cons]
      omega
  rw [byteLength, hsum, Nat.zero_add]

theorem byteLength_append (cs ds : List Char) : byteLength (cs ++ ds) = byteLength cs + byteLength ds := by
  rw [byteLength_eq, byteLength_eq, byteLength_eq, String.utf8Len_append]

theorem byteLength_toList (s : String) : byteLength s.toList = s.utf8ByteSize := by
  rw [byteLength_eq, ← String.utf8ByteSize_ofList, String.ofList_toList]

/-- What holds of a text without tokens, and of one with a token in front if it holds of what follows, holds of every
text that can be taken apart. -/
@[elab_as_elim]
theorem tokensFrom_induction {stop : Nat} {motive : List Char → List Token → Prop}
    (filler : ∀ cs, dropFiller cs = [] → motive cs [])
    (token : ∀ cs c after l others, dropFiller cs = c :: after → Lexeme.read c after = .ok l →
      tokensFrom stop l.rest = .ok others → motive l.rest others →
      motive cs ({ kind := l.kind, text := String.ofList l.text, offset := stop - byteLength (c :: after) } :: others))
    {cs : List Char} {ts : List Token} (h : tokensFrom stop cs = .ok ts) : motive cs ts := by
  induction cs using tokensFrom.induct stop generalizing ts with
  | case1 cs hnil =>
    rw [tokensFrom_nil hnil] at h
    cases h
    exact filler cs hnil
  | case2 cs c after hcons kind hread =>
    rw [tokensFrom_eq, hcons] at h
    dsimp only at h
    rw [hread] at h
    cases h
  | case3 cs c after hcons l hread ih =>
    rw [tokensFrom_step hcons hread] at h
    cases hothers : tokensFrom stop l.rest with
    | error e =>
      rw [hothers] at h
      cases h
    | ok others =>
      rw [hothers] at h
      cases h
      exact token cs c after l others hcons hread hothers (ih hothers)

/-- **The tokens of a text come before those of what follows it on a new line**, at the same offsets, unless the text ends
inside a comment. -/
theorem tokensFrom_append {stop : Nat} {cs : List Char} {ts : List Token} (h : tokensFrom stop cs = .ok ts)
    (hclosed : endsInComment cs = false) (rest : List Char) :
    tokensFrom (stop + byteLength ('\n' :: rest)) (cs ++ '\n' :: rest) =
      (ts ++ ·) <$> tokensFrom (stop + byteLength ('\n' :: rest)) rest := by
  revert hclosed
  refine tokensFrom_induction (fun cs hnil hclosed => ?_) (fun cs c after l others hcons hread _ ih hclosed => ?_) h
  · rw [endsInComment_eq, hnil, Bool.not_eq_false'] at hclosed
    rw [tokensFrom_eq, dropFiller_append fun _ => hclosed, hnil]
    dsimp only
    rw [← tokensFrom_eq]
    exact (id_map _).symm
  · rw [endsInComment_eq, hcons] at hclosed
    dsimp only at hclosed
    rw [hread] at hclosed
    have happended : dropFiller (cs ++ '\n' :: rest) = c :: (after ++ '\n' :: rest) := by
      rw [dropFiller_append (fun hnil => by rw [hcons] at hnil; cases hnil), hcons]
    have hoffset : stop + byteLength ('\n' :: rest) - byteLength (c :: (after ++ '\n' :: rest)) =
        stop - byteLength (c :: after) := by
      rw [← List.cons_append, byteLength_append, Nat.add_sub_add_right]
    rw [tokensFrom_step happended (Lexeme.read_newline hread rest), Lexeme.before, ih hclosed, hoffset]
    cases tokensFrom (stop + byteLength ('\n' :: rest)) rest <;> rfl

/-! ### Tokens further on -/

theorem dropLine_suffix (cs : List Char) : dropLine cs <:+ cs := by
  induction cs with
  | nil => exact List.suffix_rfl
  | cons c cs ih =>
    rw [dropLine]
    split
    · exact List.suffix_cons _ _
    · exact ih.trans (List.suffix_cons _ _)

theorem dropComment_suffix (cs : List Char) : dropComment cs <:+ cs := by
  fun_induction dropComment cs with
  | case1 => exact List.suffix_rfl
  | case2 cs => exact (List.suffix_cons _ _).trans (List.suffix_cons _ _)
  | case3 c cs _ ih => exact ih.trans (List.suffix_cons _ _)

theorem dropFiller_suffix (cs : List Char) : dropFiller cs <:+ cs := by
  fun_induction dropFiller cs with
  | case1 => exact List.suffix_rfl
  | case2 cs ih => exact (ih.trans (dropLine_suffix cs)).trans ((List.suffix_cons _ _).trans (List.suffix_cons _ _))
  | case3 cs ih => exact (ih.trans (dropComment_suffix cs)).trans ((List.suffix_cons _ _).trans (List.suffix_cons _ _))
  | case4 c cs _ _ _ ih => exact ih.trans (List.suffix_cons _ _)
  | case5 => exact List.suffix_rfl

namespace Lexeme

theorem splitFraction_suffix (cs : List Char) : (splitFraction cs).2 <:+ cs := by
  unfold splitFraction
  split
  · exact (List.dropWhile_suffix _).trans (List.suffix_cons _ _)
  · exact List.suffix_rfl

theorem splitExponent_suffix (cs : List Char) : (splitExponent cs).2 <:+ cs := by
  unfold splitExponent
  split
  · split
    · split
      · exact List.suffix_rfl
      · split
        · exact (List.dropWhile_suffix _).trans (List.suffix_cons _ _)
        · split
          · exact (List.dropWhile_suffix _).trans ((List.suffix_cons _ _).trans (List.suffix_cons _ _))
          · exact List.suffix_rfl
    · exact List.suffix_rfl
  · exact List.suffix_rfl

theorem untilClosed_suffix {close : Char} {cs text rest : List Char} (h : untilClosed close cs = some (text, rest)) :
    rest <:+ cs := by
  obtain ⟨used, hcs, -⟩ := (untilClosed_eq_some_iff.1 h).exists_append
  exact ⟨used, hcs.symm⟩

theorem delimited_suffix {kind : Token.Kind} {close : Char} {cs : List Char} {l : Lexeme}
    (h : delimited kind close cs = .ok l) : l.rest <:+ cs := by
  rw [delimited] at h
  split at h
  · next hclosed =>
    cases h
    exact untilClosed_suffix hclosed
  · cases h

theorem symbol_suffix (c : Char) (cs : List Char) : (symbol c cs).rest <:+ c :: cs := by
  unfold symbol
  split
  · exact List.nil_suffix
  · split
    · exact (List.suffix_cons _ _).trans (List.suffix_cons _ _)
    · exact List.suffix_cons _ _

/-- A token is taken off the front. -/
theorem read_suffix {c : Char} {cs : List Char} {l : Lexeme} (h : read c cs = .ok l) : l.rest <:+ c :: cs := by
  have hinner {close : Char} {kind : Token.Kind} (h : delimited kind close cs = .ok l) : l.rest <:+ c :: cs :=
    (delimited_suffix h).trans (List.suffix_cons _ _)
  rw [read] at h
  split_ifs at h
  · cases h
    exact ((splitExponent_suffix _).trans (splitFraction_suffix _)).trans (List.dropWhile_suffix _)
  · exact (delimited_suffix h).trans ((List.tail_suffix cs).trans (List.suffix_cons _ _))
  · exact hinner h
  · exact hinner h
  · exact hinner h
  · exact hinner h
  · cases h
    exact List.dropWhile_suffix _
  · cases h
    exact symbol_suffix c cs

end Lexeme

theorem byteLength_le_of_suffix {cs ds : List Char} (h : cs <:+ ds) : byteLength cs ≤ byteLength ds := by
  obtain ⟨es, rfl⟩ := h
  rw [byteLength_append]
  exact Nat.le_add_left _ _

/-- A token some bytes further on. -/
def Token.shift (d : Nat) (t : Token) : Token :=
  { t with offset := t.offset + d }

/-- In a text that ends later, the tokens of its last part stand further on. -/
theorem tokensFrom_add {stop : Nat} {cs : List Char} {ts : List Token} (h : tokensFrom stop cs = .ok ts)
    (hstop : byteLength cs ≤ stop) (d : Nat) : tokensFrom (stop + d) cs = .ok (ts.map (Token.shift d)) := by
  revert hstop
  refine tokensFrom_induction (fun cs hnil _ => tokensFrom_nil hnil _)
    (fun cs c after l others hcons hread _ ih hstop => ?_) h
  have hle : byteLength (c :: after) ≤ stop :=
    (byteLength_le_of_suffix (hcons ▸ dropFiller_suffix cs)).trans hstop
  have hrest : byteLength l.rest ≤ stop := (byteLength_le_of_suffix (Lexeme.read_suffix hread)).trans hle
  rw [tokensFrom_step hcons hread, ih hrest, Nat.sub_add_comm hle]
  rfl

/-! ### Texts with a semicolon between them -/

theorem tokensFrom_cons {c : Char} {cs text rest : List Char} {kind : Token.Kind} (hstart : StartsToken (c :: cs))
    (hread : Lexeme.read c cs = .ok { kind, text, rest }) (stop : Nat) :
    tokensFrom stop (c :: cs) =
      ({ kind, text := String.ofList text, offset := stop - byteLength (c :: cs) } :: ·) <$> tokensFrom stop rest :=
  tokensFrom_step hstart hread stop

/-- The marks that are tokens of their own, whatever follows. -/
def punctuation : List Char :=
  ['(', ')', ',', ';']

theorem read_punctuation {c : Char} (hc : c ∈ punctuation) (cs : List Char) :
    Lexeme.read c cs = .ok { kind := .symbol, text := [c], rest := cs } := by
  have hshort (d : Char) : Lexeme.isLongSymbol c d = false := by
    simp only [punctuation, List.mem_cons, List.not_mem_nil, or_false] at hc
    rcases hc with rfl | rfl | rfl | rfl <;> simp [Lexeme.isLongSymbol]
  have hsymbol : Lexeme.symbol c cs = { kind := .symbol, text := [c], rest := cs } := by
    cases cs with
    | nil => rfl
    | cons d ds => rw [Lexeme.symbol, hshort]; rfl
  rw [← hsymbol]
  simp only [punctuation, List.mem_cons, List.not_mem_nil, or_false] at hc
  rcases hc with rfl | rfl | rfl | rfl <;> rfl

theorem startsToken_punctuation {c : Char} (hc : c ∈ punctuation) (cs : List Char) : StartsToken (c :: cs) := by
  simp only [punctuation, List.mem_cons, List.not_mem_nil, or_false] at hc
  rcases hc with rfl | rfl | rfl | rfl <;> exact startsToken_of_ne (by decide) (by decide) (by decide)

theorem tokensFrom_punctuation {c : Char} (hc : c ∈ punctuation) (cs : List Char) (stop : Nat) :
    tokensFrom stop (c :: cs) =
      ({ kind := .symbol, text := String.singleton c, offset := stop - byteLength (c :: cs) } :: ·) <$>
        tokensFrom stop cs :=
  tokensFrom_cons (startsToken_punctuation hc cs) (read_punctuation hc cs) stop

/-- **The tokens of a batch**: those of the first text, a semicolon, and those of the second text, further on. -/
theorem tokenize_batch {a b : String} {ts us : List Token} (ha : tokenize a = .ok ts)
    (hclosed : endsInComment a.toList = false) (hb : tokenize b = .ok us) :
    tokenize (a ++ "\n;" ++ b) = .ok (ts ++ { kind := .symbol, text := ";", offset := a.utf8ByteSize + 1 } ::
      us.map (Token.shift (a.utf8ByteSize + 2))) := by
  have hlist : (a ++ "\n;" ++ b).toList = a.toList ++ '\n' :: ';' :: b.toList := by
    rw [String.toList_append, String.toList_append, List.append_assoc]
    rfl
  have hbytes : byteLength ('\n' :: ';' :: b.toList) = 2 + b.utf8ByteSize := by
    rw [← byteLength_toList b]
    exact byteLength_append ['\n', ';'] b.toList
  have hsize : (a ++ "\n;" ++ b).utf8ByteSize = a.utf8ByteSize + byteLength ('\n' :: ';' :: b.toList) := by
    rw [hbytes, String.utf8ByteSize_append, String.utf8ByteSize_append, Nat.add_assoc]
    rfl
  have hsemicolon : byteLength (';' :: b.toList) = 1 + b.utf8ByteSize := by
    rw [← byteLength_toList b]
    exact byteLength_append [';'] b.toList
  have hrest := tokensFrom_add hb (byteLength_toList b).le (a.utf8ByteSize + 2)
  rw [tokenize, hsize, hlist, tokensFrom_append ha hclosed, hbytes, tokensFrom_punctuation (by decide), hsemicolon]
  have hstop : a.utf8ByteSize + (2 + b.utf8ByteSize) = b.utf8ByteSize + (a.utf8ByteSize + 2) := by omega
  have hoffset : a.utf8ByteSize + (2 + b.utf8ByteSize) - (1 + b.utf8ByteSize) = a.utf8ByteSize + 1 := by omega
  rw [hoffset, hstop, hrest]
  rfl

/-! ### Texts behind known tokens -/

/-- Whatever follows it, a text is taken apart into tokens with these contents. -/
def Opens (cs : List Char) (contents : List Token.Content) : Prop :=
  ∀ stop rest, ∃ ps : List Token, ps.map Token.content = contents ∧
    tokensFrom stop (cs ++ rest) = (ps ++ ·) <$> tokensFrom stop rest

namespace Opens

variable {cs : List Char} {contents : List Token.Content}

theorem nil : Opens [] [] :=
  fun stop rest => ⟨[], rfl, (id_map (tokensFrom stop rest)).symm⟩

theorem blank (h : Opens cs contents) : Opens (' ' :: cs) contents := by
  intro stop rest
  rw [List.cons_append, tokensFrom_eq, dropFiller_blank (by decide), ← tokensFrom_eq]
  exact h stop rest

/-- A token that is read in the same way whatever follows. -/
theorem token {c : Char} {f text : List Char} {kind : Token.Kind} (h : Opens cs contents)
    (hstart : ∀ rest, StartsToken (c :: (f ++ (cs ++ rest))))
    (hread : ∀ rest, Lexeme.read c (f ++ (cs ++ rest)) = .ok { kind, text, rest := cs ++ rest }) :
    Opens (c :: (f ++ cs)) ((kind, String.ofList text) :: contents) := by
  intro stop rest
  obtain ⟨ps, hps, htokens⟩ := h stop rest
  rw [List.cons_append, List.append_assoc, tokensFrom_cons (hstart rest) (hread rest), htokens]
  refine ⟨{ kind, text := String.ofList text, offset := stop - byteLength (c :: (f ++ (cs ++ rest))) } :: ps, ?_, ?_⟩
  · rw [List.map_cons, hps]
    rfl
  · cases tokensFrom stop rest <;> rfl

theorem word {s : String} (hs : IsWord s) (h : Opens cs contents) :
    Opens (s.toList ++ ' ' :: cs) ((.word, s) :: contents) := by
  obtain ⟨c, front, heq, -, -⟩ := read_word hs (AtBlank.endsWord (.inl rfl))
  have hblank (rest : List Char) : AtBlank (' ' :: cs ++ rest) := .inr ⟨cs ++ rest, rfl⟩
  have hread (rest : List Char) : StartsToken (c :: (front ++ (' ' :: cs ++ rest))) ∧
      Lexeme.read c (front ++ (' ' :: cs ++ rest)) =
        .ok { kind := .word, text := c :: front, rest := ' ' :: cs ++ rest } := by
    obtain ⟨c', front', heq', hstart, hread⟩ := read_word hs (hblank rest).endsWord
    rw [heq] at heq'
    cases heq'
    exact ⟨hstart, hread⟩
  have hopens := h.blank.token (fun rest => (hread rest).1) fun rest => (hread rest).2
  rw [← heq, String.ofList_toList] at hopens
  rw [heq]
  exact hopens

/-- A mark with a blank after it. -/
theorem mark {c : Char} (hc : c ∈ markStarts) (h : Opens cs contents) :
    Opens (c :: ' ' :: cs) ((.symbol, String.singleton c) :: contents) := by
  refine h.blank.token (f := []) (fun rest => startsToken_markStart hc nofun nofun) fun rest => ?_
  rw [read_markStart hc]
  exact congrArg Except.ok (symbol_of_atBlank c (.inr ⟨_, rfl⟩))

theorem punctuation {c : Char} (hc : c ∈ SqlFormula.punctuation) (h : Opens cs contents) :
    Opens (c :: cs) ((.symbol, String.singleton c) :: contents) :=
  h.token (f := []) (fun _ => startsToken_punctuation hc _) fun _ => read_punctuation hc _

theorem of_eq {ds : List Char} (h : Opens cs contents) (heq : ds = cs) : Opens ds contents :=
  heq ▸ h

end Opens

/-- Whether a text can be taken apart does not depend on where it ends. -/
theorem exists_tokensFrom {stop : Nat} {cs : List Char} {ts : List Token} (h : tokensFrom stop cs = .ok ts)
    (stop' : Nat) : ∃ ts', tokensFrom stop' cs = .ok ts' := by
  refine tokensFrom_induction (fun cs hnil => ⟨[], tokensFrom_nil hnil stop'⟩)
    (fun cs c after l others hcons hread _ ih => ?_) h
  obtain ⟨others', hothers⟩ := ih
  rw [tokensFrom_step hcons hread, hothers]
  exact ⟨_, rfl⟩

/-- The tokens of a text stand behind those that it is put after. -/
theorem tokenize_opens {pre f : String} {contents : List Token.Content} {ts : List Token}
    (hpre : Opens pre.toList contents) (hf : tokenize f = .ok ts) :
    ∃ ps : List Token, ps.map Token.content = contents ∧
      tokenize (pre ++ f) = .ok (ps ++ ts.map (Token.shift pre.utf8ByteSize)) := by
  obtain ⟨ps, hps, htokens⟩ := hpre (pre ++ f).utf8ByteSize f.toList
  have hrest := tokensFrom_add hf (byteLength_toList f).le pre.utf8ByteSize
  refine ⟨ps, hps, ?_⟩
  rw [tokenize, String.toList_append, htokens, String.utf8ByteSize_append, Nat.add_comm, hrest]
  rfl

/-- What can be taken apart behind other tokens can be taken apart on its own. -/
theorem exists_tokenize_of_opens {pre f : String} {contents : List Token.Content} {ts : List Token}
    (hpre : Opens pre.toList contents) (h : tokenize (pre ++ f) = .ok ts) : ∃ us, tokenize f = .ok us := by
  obtain ⟨ps, -, htokens⟩ := hpre (pre ++ f).utf8ByteSize f.toList
  rw [tokenize, String.toList_append, htokens] at h
  cases hf : tokensFrom (pre ++ f).utf8ByteSize f.toList with
  | error e =>
    rw [hf] at h
    cases h
  | ok us => exact exists_tokensFrom hf f.utf8ByteSize

/-- The tokens of a text between other tokens, if it does not end inside a comment. -/
theorem tokenize_between {pre f post : String} {contents : List Token.Content} {ts us : List Token}
    (hpre : Opens pre.toList contents) (hf : tokenize f = .ok ts) (hclosed : endsInComment f.toList = false)
    (hpost : tokenize post = .ok us) :
    ∃ ps qs : List Token, ps.map Token.content = contents ∧ qs.map Token.content = us.map Token.content ∧
      tokenize (pre ++ f ++ "\n" ++ post) = .ok (ps ++ (ts.map (Token.shift pre.utf8ByteSize) ++ qs)) := by
  have hbytes : byteLength ('\n' :: post.toList) = 1 + post.utf8ByteSize := by
    rw [← byteLength_toList post]
    exact byteLength_append ['\n'] post.toList
  have hfront := tokensFrom_append hf hclosed post.toList
  have hback := tokensFrom_add hpost (byteLength_toList post).le (f.utf8ByteSize + 1)
  have hstop : f.utf8ByteSize + (1 + post.utf8ByteSize) = post.utf8ByteSize + (f.utf8ByteSize + 1) := by omega
  rw [hbytes, hstop, hback] at hfront
  -- the text and what follows it, at the end of the whole text
  have hle : byteLength (f.toList ++ '\n' :: post.toList) ≤ post.utf8ByteSize + (f.utf8ByteSize + 1) := by
    rw [byteLength_append, byteLength_toList, hbytes]
    omega
  have hmiddle := tokensFrom_add hfront hle pre.utf8ByteSize
  have hsize : (pre ++ f ++ "\n" ++ post).utf8ByteSize =
      post.utf8ByteSize + (f.utf8ByteSize + 1) + pre.utf8ByteSize := by
    rw [String.utf8ByteSize_append, String.utf8ByteSize_append, String.utf8ByteSize_append]
    show pre.utf8ByteSize + f.utf8ByteSize + 1 + post.utf8ByteSize = _
    omega
  have hlist : (pre ++ f ++ "\n" ++ post).toList = pre.toList ++ (f.toList ++ '\n' :: post.toList) := by
    simp [String.toList_append]
  obtain ⟨ps, hps, htokens⟩ := hpre (post.utf8ByteSize + (f.utf8ByteSize + 1) + pre.utf8ByteSize)
    (f.toList ++ '\n' :: post.toList)
  refine ⟨ps, (us.map (Token.shift (f.utf8ByteSize + 1))).map (Token.shift pre.utf8ByteSize), hps, ?_, ?_⟩
  · rw [List.map_map, List.map_map]
    rfl
  · rw [tokenize, hsize, hlist, htokens, hmiddle, List.map_append]
    rfl

end SqlFormula
