import SqlFormula.Proofs.Number.Numeral
import SqlFormula.Proofs.Text.Letter
import SqlFormula.Text.Hex
import SqlFormula.Token.Lexer

/-!
# Writing tokens

Tokens that are written with blanks between them are taken apart in the same way. An integer is written as one piece,
although the minus sign is a token of its own.

## Main definitions

- `Token.content` — a token without its place
- `Piece`, `Piece.written`, `Piece.contents` — what is written without blanks, and the tokens that it stands for
- `Piece.line` — pieces in a row
- `LexesTo` — the tokens of a text, without their places
- `IsLiteral` — the content of a literal and what follows it

## Main statements

- `Lexeme.untilClosed_eq_some_iff` — literals end where their delimiter does not stand twice
- `Piece.tokenize_line` — the tokens of pieces in a row are the tokens of the pieces
-/

namespace SqlFormula

/-- A token without its place. -/
abbrev Token.Content := Token.Kind × String

/-- A token without its place. -/
def Token.content (t : Token) : Token.Content :=
  (t.kind, t.text)

/-- The tokens of a text, wherever it stands in a longer one. -/
def LexesTo (cs : List Char) (contents : List Token.Content) : Prop :=
  ∀ stop, ∃ ts, tokensFrom stop cs = .ok ts ∧ ts.map Token.content = contents

/-! ### One token after the other -/

theorem tokensFrom_eq (stop : Nat) (cs : List Char) : tokensFrom stop cs =
    (match dropFiller cs with
    | [] => .ok []
    | c :: after =>
      match Lexeme.read c after with
      | .error kind => .error { kind, offset := stop - Text.byteLength (c :: after) }
      | .ok l => do
        let others ← tokensFrom stop l.rest
        .ok ({ kind := l.kind, text := String.ofList l.text, offset := stop - Text.byteLength (c :: after) } ::
          others)) := by
  rw [tokensFrom]
  split
  · next h => rw [h]
  · next c after h =>
    rw [h]
    dsimp only
    split
    · next heq => rw [heq]
    · next heq => rw [heq]

theorem tokensFrom_nil {cs : List Char} (hnil : dropFiller cs = []) (stop : Nat) : tokensFrom stop cs = .ok [] := by
  rw [tokensFrom_eq, hnil]

/-- One token after the other. -/
theorem tokensFrom_step {c : Char} {cs after : List Char} {l : Lexeme} (hcons : dropFiller cs = c :: after)
    (hread : Lexeme.read c after = .ok l) (stop : Nat) :
    tokensFrom stop cs =
      ({ kind := l.kind, text := String.ofList l.text, offset := stop - Text.byteLength (c :: after) } :: ·) <$>
        tokensFrom stop l.rest := by
  rw [tokensFrom_eq, hcons]
  dsimp only
  rw [hread]
  dsimp only
  cases tokensFrom stop l.rest <;> rfl

theorem dropFiller_nil : dropFiller [] = [] := by
  rw [dropFiller.eq_def]

theorem dropFiller_line (cs : List Char) : dropFiller ('-' :: '-' :: cs) = dropFiller (dropLine cs) := by
  rw [dropFiller.eq_def]
  rfl

theorem dropFiller_comment (cs : List Char) : dropFiller ('/' :: '*' :: cs) = dropFiller (dropComment cs) := by
  rw [dropFiller.eq_def]
  rfl

/-- A character that starts no comment is dropped if it is a blank. -/
theorem dropFiller_cons {c : Char} {cs : List Char} (hline : c = '-' → cs.head? ≠ some '-')
    (hcomment : c = '/' → cs.head? ≠ some '*') :
    dropFiller (c :: cs) = if Text.isBlank c then dropFiller cs else c :: cs := by
  rw [dropFiller.eq_def]
  split
  · next heq => cases heq
  · next heq =>
    cases heq
    exact absurd rfl (hline rfl)
  · next heq =>
    cases heq
    exact absurd rfl (hcomment rfl)
  · next heq =>
    cases heq
    rfl

theorem dropFiller_blank {c : Char} (hc : Text.isBlank c = true) (cs : List Char) :
    dropFiller (c :: cs) = dropFiller cs := by
  have hne {d : Char} (hd : Text.isBlank d = false) : c ≠ d := by
    rintro rfl
    exact Bool.false_ne_true (hd.symm.trans hc)
  rw [dropFiller_cons (fun h => absurd h (hne (by decide))) fun h => absurd h (hne (by decide)), if_pos hc]

theorem lexesTo_nil : LexesTo [] [] := by
  intro stop
  exact ⟨[], tokensFrom_nil dropFiller_nil stop, rfl⟩

theorem LexesTo.blank {cs : List Char} {contents : List Token.Content} (h : LexesTo cs contents) :
    LexesTo (' ' :: cs) contents := by
  intro stop
  rw [tokensFrom_eq, dropFiller_blank (by decide), ← tokensFrom_eq]
  exact h stop

/-- Nothing in front of the next token is dropped. -/
def StartsToken (cs : List Char) : Prop :=
  dropFiller cs = cs

theorem LexesTo.cons {c : Char} {cs rest text : List Char} {kind : Token.Kind} {contents : List Token.Content}
    (hstart : StartsToken (c :: cs)) (hread : Lexeme.read c cs = .ok { kind, text, rest })
    (hrest : LexesTo rest contents) : LexesTo (c :: cs) ((kind, String.ofList text) :: contents) := by
  intro stop
  obtain ⟨ts, hts, hcontents⟩ := hrest stop
  rw [tokensFrom_step hstart hread, hts]
  exact ⟨_, rfl, congrArg (_ :: ·) hcontents⟩

/-- A token starts with what is neither a blank nor the start of a comment. -/
theorem startsToken_cons {c : Char} {cs : List Char} (hblank : Text.isBlank c = false)
    (hline : c = '-' → cs.head? ≠ some '-') (hcomment : c = '/' → cs.head? ≠ some '*') : StartsToken (c :: cs) := by
  rw [StartsToken, dropFiller_cons hline hcomment, hblank]
  rfl

theorem startsToken_of_ne {c : Char} {cs : List Char} (hblank : Text.isBlank c = false) (hminus : c ≠ '-')
    (hslash : c ≠ '/') : StartsToken (c :: cs) :=
  startsToken_cons hblank (fun h => absurd h hminus) fun h => absurd h hslash

/-! ### Pieces -/

/-- A part of a text that is written without blanks. -/
inductive Piece where
  | word (s : String)
  | symbol (s : String)
  /-- An integer with its sign. -/
  | integer (i : Int)
  /-- A text between apostrophes. -/
  | text (s : String)
  /-- A name between quotes. -/
  | name (s : String)
  | blob (bytes : List UInt8)

/-- Characters in which a delimiter is written twice. -/
def doubled (close : Char) : List Char → List Char
  | [] => []
  | c :: cs => if c = close then close :: close :: doubled close cs else c :: doubled close cs

/-- The operators and punctuation marks of expressions. -/
def marks : List String :=
  ["(", ")", ",", "+", "-", "*", "/", "%", "||", "=", "<>", "<", "<=", ">", ">="]

/-- A word: a letter or an underscore, and what can continue a word. -/
def IsWord (s : String) : Prop :=
  ∃ c cs, s.toList = c :: cs ∧ (Text.isAlphabetic c || c == '_') = true ∧ ∀ d ∈ cs, Lexeme.isWordPart d = true

namespace Piece

/-- The characters of a piece. -/
def written : Piece → List Char
  | .word s | .symbol s => s.toList
  | .integer i => (toString i).toList
  | .text s => '\'' :: (doubled '\'' s.toList ++ ['\''])
  | .name s => '"' :: (doubled '"' s.toList ++ ['"'])
  | .blob bytes => 'X' :: '\'' :: (Text.Hex.encodeWith Text.Hex.upperDigit bytes ++ ['\''])

/-- The digits of a number. -/
def digits (n : Nat) : String :=
  String.ofList (Nat.toDigits 10 n)

/-- The tokens of a piece. -/
def contents : Piece → List Token.Content
  | .word s => [(.word, s)]
  | .symbol s => [(.symbol, s)]
  | .integer i => (if i < 0 then [(.symbol, "-")] else []) ++ [(.number, digits i.natAbs)]
  | .text s => [(.string, s)]
  | .name s => [(.quotedIdentifier, s)]
  | .blob bytes => [(.blob, Text.Hex.encodeUpper bytes)]

/-- Words are words, and symbols are marks. -/
def Proper : Piece → Prop
  | .word s => IsWord s
  | .symbol s => s ∈ marks
  | _ => True

/-- Pieces in a row, with a blank between each two. -/
def line : List Piece → List Char
  | [] => []
  | [p] => p.written
  | p :: q :: ps => p.written ++ ' ' :: line (q :: ps)

end Piece

/-- A blank comes next, or nothing. -/
def AtBlank (rest : List Char) : Prop :=
  rest = [] ∨ ∃ cs, rest = ' ' :: cs

theorem AtBlank.head?_ne {rest : List Char} (h : AtBlank rest) {c : Char} (hc : c ≠ ' ') : rest.head? ≠ some c := by
  obtain rfl | ⟨cs, rfl⟩ := h
  · exact nofun
  · exact fun heq => hc (Option.some.inj heq).symm

theorem AtBlank.endsDigits {rest : List Char} (h : AtBlank rest) : Number.EndsDigits rest := by
  obtain rfl | ⟨cs, rfl⟩ := h
  · exact Number.endsDigits_nil
  · exact Number.endsDigits_cons (by decide)

/-! ### Words -/

theorem not_isDigit_of_isAlphabetic {c : Char} (h : Text.isAlphabetic c = true) : c.isDigit = false := by
  refine Bool.eq_false_iff.2 fun hdigit => ?_
  simp only [Char.isDigit, Bool.and_eq_true, decide_eq_true_eq, ge_iff_le, UInt32.le_iff_toNat_le,
    UInt32.reduceToNat, Char.reduceVal] at hdigit
  have hascii : c.val < 128 := by
    rw [UInt32.lt_iff_toNat_lt]
    show c.val.toNat < 128
    omega
  rw [Text.isAlphabetic, if_pos hascii] at h
  simp only [Char.isAlpha, Char.isUpper, Char.isLower, Bool.or_eq_true, Bool.and_eq_true, decide_eq_true_eq,
    ge_iff_le, UInt32.le_iff_toNat_le, UInt32.reduceToNat, Char.reduceVal] at h
  omega

theorem not_isBlank_of_isAlphabetic {c : Char} (h : Text.isAlphabetic c = true) : Text.isBlank c = false := by
  refine Bool.eq_false_iff.2 fun hblank => ?_
  have hnot := Text.not_isAlphanumeric_of_isBlank hblank
  rw [Text.isAlphanumeric, h] at hnot
  cases hnot

theorem isWordPart_of_ascii {c : Char} (h : c.val < 128) :
    Lexeme.isWordPart c = (c.isAlpha || c.isDigit || c == '_' || c == '$') := by
  rw [Lexeme.isWordPart, Text.isAlphanumeric, Text.isAlphabetic, Text.isNumber, if_pos h, if_pos h]

/-- What starts a word starts nothing else. -/
structure StartsWord (c : Char) : Prop where
  notDigit : c.isDigit = false
  notBlank : Text.isBlank c = false
  notMark : c ∉ ['.', '\'', '"', '`', '[', '-', '/']
  isWordPart : Lexeme.isWordPart c = true

theorem startsWord {c : Char} (h : (Text.isAlphabetic c || c == '_') = true) : StartsWord c := by
  obtain halphabetic | hunderscore := Bool.or_eq_true_iff.1 h
  · refine ⟨not_isDigit_of_isAlphabetic halphabetic, not_isBlank_of_isAlphabetic halphabetic, ?_, ?_⟩
    · intro hc
      have hmarks : ['.', '\'', '"', '`', '[', '-', '/'].all (fun d => d.val < 128 && !d.isAlpha) = true := by decide
      have hmark := List.all_eq_true.1 hmarks c hc
      simp only [Bool.and_eq_true, decide_eq_true_eq, Bool.not_eq_true'] at hmark
      rw [Text.isAlphabetic, if_pos hmark.1, hmark.2] at halphabetic
      cases halphabetic
    · simp only [Lexeme.isWordPart, Text.isAlphanumeric, halphabetic, Bool.true_or]
  · obtain rfl := beq_iff_eq.1 hunderscore
    exact ⟨by decide, by decide, by decide, (isWordPart_of_ascii (by decide)).trans (by decide)⟩

/-- What comes next neither goes on with a word nor makes a blob of an `X`. -/
def EndsWord (rest : List Char) : Prop :=
  ∀ c ∈ rest.head?, Lexeme.isWordPart c = false ∧ c ≠ '\''

theorem AtBlank.endsWord {rest : List Char} (h : AtBlank rest) : EndsWord rest := by
  obtain rfl | ⟨cs, rfl⟩ := h
  · exact nofun
  · intro c hc
    obtain rfl := Option.some.inj hc
    exact ⟨isWordPart_of_ascii (by decide), by decide⟩

theorem takeWhile_isWordPart {cs rest : List Char} (h : ∀ c ∈ cs, Lexeme.isWordPart c = true) (hrest : EndsWord rest) :
    (cs ++ rest).takeWhile Lexeme.isWordPart = cs ∧ (cs ++ rest).dropWhile Lexeme.isWordPart = rest := by
  have hend : rest.takeWhile Lexeme.isWordPart = [] ∧ rest.dropWhile Lexeme.isWordPart = rest := by
    cases rest with
    | nil => exact ⟨rfl, rfl⟩
    | cons c rest => simp [(hrest c rfl).1]
  rw [List.takeWhile_append_of_pos h, List.dropWhile_append_of_pos h, hend.1, hend.2, List.append_nil]
  exact ⟨rfl, rfl⟩

theorem read_word {s : String} {rest : List Char} (hs : IsWord s) (hrest : EndsWord rest) :
    ∃ c cs, s.toList = c :: cs ∧ StartsToken (c :: (cs ++ rest)) ∧
      Lexeme.read c (cs ++ rest) = .ok { kind := .word, text := c :: cs, rest } := by
  obtain ⟨c, cs, heq, hc, hcs⟩ := hs
  have hstart := startsWord hc
  have hparts : ∀ d ∈ c :: cs, Lexeme.isWordPart d = true := List.forall_mem_cons.2 ⟨hstart.isWordPart, hcs⟩
  -- an `X` before an apostrophe would start a blob
  have hquote : (cs ++ rest).head? ≠ some '\'' := by
    cases cs with
    | nil => exact fun heq => (hrest _ heq).2 rfl
    | cons d ds =>
      intro heq
      obtain rfl := Option.some.inj heq
      have hpart : Lexeme.isWordPart '\'' = false := isWordPart_of_ascii (by decide)
      rw [hcs _ List.mem_cons_self] at hpart
      cases hpart
  have hmark := hstart.notMark
  simp only [List.mem_cons, List.not_mem_nil, or_false, not_or] at hmark
  obtain ⟨hdot, hapostrophe, hdouble, hback, hbracket, hminus, hslash⟩ := hmark
  have hhead : ((cs ++ rest).head? == some '\'') = false := beq_eq_false_iff_ne.2 hquote
  obtain ⟨htake, hdrop⟩ := takeWhile_isWordPart hparts hrest
  have hread : Lexeme.read c (cs ++ rest) = .ok { kind := .word, text := c :: cs, rest } := by
    rw [List.cons_append] at htake hdrop
    rw [Lexeme.read]
    simp only [hstart.notDigit, beq_eq_false_iff_ne.2 hdot, hhead, beq_eq_false_iff_ne.2 hapostrophe,
      beq_eq_false_iff_ne.2 hdouble, beq_eq_false_iff_ne.2 hback, beq_eq_false_iff_ne.2 hbracket, hc, htake, hdrop,
      Bool.false_and, Bool.and_false, Bool.or_self, Bool.false_eq_true, if_false, if_true]
  exact ⟨c, cs, heq, startsToken_of_ne hstart.notBlank hminus hslash, hread⟩

theorem lexesTo_word {s : String} {rest : List Char} {contents : List Token.Content} (hs : IsWord s)
    (hrest : AtBlank rest) (h : LexesTo rest contents) : LexesTo (s.toList ++ rest) ((.word, s) :: contents) := by
  obtain ⟨c, cs, heq, hstart, hread⟩ := read_word hs hrest.endsWord
  have hresult := h.cons hstart hread
  rw [← heq, String.ofList_toList] at hresult
  rw [heq]
  exact hresult

/-! ### Operators and punctuation marks -/

/-- The characters that marks start with. -/
def markStarts : List Char :=
  ['(', ')', ',', '+', '-', '*', '/', '%', '|', '=', '<', '>']

theorem read_markStart {c : Char} (hc : c ∈ markStarts) (cs : List Char) :
    Lexeme.read c cs = .ok (Lexeme.symbol c cs) := by
  simp only [markStarts, List.mem_cons, List.not_mem_nil, or_false] at hc
  rcases hc with rfl | rfl | rfl | rfl | rfl | rfl | rfl | rfl | rfl | rfl | rfl | rfl <;> rfl

/-- A blank after a mark keeps it from going on as a longer one. -/
theorem symbol_of_atBlank (c : Char) {rest : List Char} (hrest : AtBlank rest) :
    Lexeme.symbol c rest = { kind := .symbol, text := [c], rest } := by
  obtain rfl | ⟨cs, rfl⟩ := hrest
  · rfl
  · have hshort : Lexeme.isLongSymbol c ' ' = false := by
      simp [Lexeme.isLongSymbol]
    rw [Lexeme.symbol, hshort]
    rfl

theorem startsToken_markStart {c : Char} (hc : c ∈ markStarts) {cs : List Char} (hminus : cs.head? ≠ some '-')
    (hstar : cs.head? ≠ some '*') : StartsToken (c :: cs) := by
  have hblank : markStarts.all (fun c => !Text.isBlank c) = true := by decide
  refine startsToken_cons ?_ (fun _ => hminus) fun _ => hstar
  exact Bool.not_eq_true' _ ▸ List.all_eq_true.1 hblank c hc

theorem lexesTo_symbol {s : String} {rest : List Char} {contents : List Token.Content} (hs : s ∈ marks)
    (hrest : AtBlank rest) (h : LexesTo rest contents) : LexesTo (s.toList ++ rest) ((.symbol, s) :: contents) := by
  -- a mark has one character, or two that go together
  have hshape : (∃ c ∈ markStarts, s.toList = [c]) ∨
      ∃ c ∈ markStarts, ∃ d ∈ markStarts, s.toList = [c, d] ∧ Lexeme.isLongSymbol c d = true ∧ d ≠ '-' ∧ d ≠ '*' := by
    simp only [marks, List.mem_cons, List.not_mem_nil, or_false] at hs
    rcases hs with rfl | rfl | rfl | rfl | rfl | rfl | rfl | rfl | rfl | rfl | rfl | rfl | rfl | rfl | rfl <;>
      simp [markStarts, Lexeme.isLongSymbol]
  have hresult : LexesTo (s.toList ++ rest) ((.symbol, String.ofList s.toList) :: contents) := by
    obtain ⟨c, hc, heq⟩ | ⟨c, hc, d, hd, heq, hlong, hminus, hstar⟩ := hshape
    · have hstart := startsToken_markStart hc (hrest.head?_ne (by decide)) (hrest.head?_ne (by decide))
      have hread : Lexeme.read c rest = .ok { kind := .symbol, text := [c], rest } := by
        rw [read_markStart hc, symbol_of_atBlank c hrest]
      rw [heq]
      exact h.cons hstart hread
    · have hstart : StartsToken (c :: d :: rest) :=
        startsToken_markStart hc (fun h => hminus (Option.some.inj h)) (fun h => hstar (Option.some.inj h))
      have hread : Lexeme.read c (d :: rest) = .ok { kind := .symbol, text := [c, d], rest } := by
        rw [read_markStart hc, Lexeme.symbol, if_pos hlong]
      rw [heq]
      exact h.cons hstart hread
  rwa [String.ofList_toList] at hresult

/-! ### Integers -/

theorem lexesTo_digits {n : Nat} {rest : List Char} {contents : List Token.Content} (hrest : AtBlank rest)
    (h : LexesTo rest contents) :
    LexesTo (Nat.toDigits 10 n ++ rest) ((.number, Piece.digits n) :: contents) := by
  have hdigits : ∀ c ∈ Nat.toDigits 10 n, c.isDigit := fun _ => Number.isDigit_of_mem_toDigits
  obtain ⟨htake, hdrop⟩ := Number.takeWhile_isDigit hdigits hrest.endsDigits
  -- the blank ends the number: it has neither a fraction nor an exponent
  have hends : Lexeme.splitFraction rest = ([], rest) ∧ Lexeme.splitExponent rest = ([], rest) := by
    obtain rfl | ⟨cs, rfl⟩ := hrest
    · exact ⟨rfl, rfl⟩
    · exact ⟨rfl, rfl⟩
  have hnumber : Lexeme.number (Nat.toDigits 10 n ++ rest) = { kind := .number, text := Nat.toDigits 10 n, rest } := by
    simp only [Lexeme.number, htake, hdrop, hends.1, hends.2, List.append_nil]
  obtain ⟨c, cs, heq⟩ := List.exists_cons_of_ne_nil (Nat.toDigits_ne_nil (b := 10) (n := n))
  have hc : c.isDigit = true := hdigits c (heq ▸ List.mem_cons_self)
  rw [heq, List.cons_append] at hnumber ⊢
  have hread : Lexeme.read c (cs ++ rest) = .ok { kind := .number, text := c :: cs, rest } := by
    rw [Lexeme.read, hc, Bool.true_or, if_pos rfl, hnumber]
  have hne {d : Char} (hd : d.isDigit = false) : c ≠ d := Number.ne_of_isDigit hc hd
  have hstart : StartsToken (c :: (cs ++ rest)) :=
    startsToken_of_ne (Number.isBlank_of_isDigit hc) (hne (by decide)) (hne (by decide))
  have hresult := h.cons hstart hread
  rw [← heq] at hresult
  exact hresult

theorem lexesTo_integer {i : Int} {rest : List Char} {contents : List Token.Content} (hrest : AtBlank rest)
    (h : LexesTo rest contents) :
    LexesTo ((Piece.integer i).written ++ rest) ((Piece.integer i).contents ++ contents) := by
  have hdigits := lexesTo_digits (n := i.natAbs) hrest h
  rw [Piece.written, Piece.contents, Number.toList_toString]
  by_cases hi : i < 0
  · rw [if_pos hi, if_pos hi, List.append_assoc, List.append_assoc]
    obtain ⟨c, cs, heq⟩ := List.exists_cons_of_ne_nil (Nat.toDigits_ne_nil (b := 10) (n := i.natAbs))
    have hc : c.isDigit := Number.isDigit_of_mem_toDigits (heq ▸ List.mem_cons_self)
    have hne : c ≠ '-' := Number.ne_of_isDigit hc (by decide)
    rw [heq] at hdigits ⊢
    have hshort : Lexeme.isLongSymbol '-' c = false := by
      simp [Lexeme.isLongSymbol]
    have hread : Lexeme.read '-' (c :: (cs ++ rest)) =
        .ok { kind := .symbol, text := ['-'], rest := c :: (cs ++ rest) } := by
      rw [read_markStart (by decide), Lexeme.symbol, hshort]
      rfl
    have hstart : StartsToken ('-' :: c :: (cs ++ rest)) :=
      startsToken_cons (by decide) (fun _ h => hne (Option.some.inj h)) fun h => absurd h (by decide)
    exact hdigits.cons hstart hread
  · rw [if_neg hi, if_neg hi]
    exact hdigits

/-! ### Delimited literals -/

/-- The characters after the delimiter that opens a literal are its content, the delimiter that closes it, and what
follows. In the content that delimiter stands twice; a square bracket does not stand there at all. -/
def IsLiteral (close : Char) (cs content rest : List Char) : Prop :=
  if close = ']' then ']' ∉ content ∧ cs = content ++ ']' :: rest
  else rest.head? ≠ some close ∧ cs = doubled close content ++ close :: rest

namespace Lexeme

/-- A delimiter closes a literal unless it stands twice. -/
theorem untilClosed_close {close : Char} {rest : List Char} (hrest : close ≠ ']' → rest.head? ≠ some close) :
    untilClosed close (close :: rest) = some ([], rest) := by
  rw [untilClosed.eq_def]
  dsimp only
  rw [if_pos rfl]
  cases rest with
  | nil => rfl
  | cons d ds => exact if_neg fun h => hrest h.2 (congrArg some h.1)

/-- A delimiter that stands twice belongs to the content. -/
theorem untilClosed_twice {close : Char} (hclose : close ≠ ']') (cs : List Char) :
    untilClosed close (close :: close :: cs) =
      (untilClosed close cs).map fun (text, rest) => (close :: text, rest) := by
  rw [untilClosed.eq_def]
  dsimp only
  rw [if_pos rfl, if_pos ⟨rfl, hclose⟩]

theorem untilClosed_cons {close c : Char} (hc : c ≠ close) (cs : List Char) :
    untilClosed close (c :: cs) = (untilClosed close cs).map fun (text, rest) => (c :: text, rest) := by
  rw [untilClosed.eq_def]
  exact if_neg hc

theorem untilClosed_doubled {close : Char} (hclose : close ≠ ']') (cs : List Char) {rest : List Char}
    (hrest : rest.head? ≠ some close) : untilClosed close (doubled close cs ++ close :: rest) = some (cs, rest) := by
  induction cs with
  | nil => exact untilClosed_close fun _ => hrest
  | cons c cs ih =>
    rw [doubled]
    by_cases hc : c = close
    · rw [if_pos hc, List.cons_append, List.cons_append, untilClosed_twice hclose, ih, hc]
      rfl
    · rw [if_neg hc, List.cons_append, untilClosed_cons hc, ih]
      rfl

theorem untilClosed_bracket {content : List Char} (h : ']' ∉ content) (rest : List Char) :
    untilClosed ']' (content ++ ']' :: rest) = some (content, rest) := by
  induction content with
  | nil => exact untilClosed_close fun hne => absurd rfl hne
  | cons c content ih =>
    rw [List.mem_cons, not_or] at h
    rw [List.cons_append, untilClosed_cons (Ne.symm h.1), ih h.2]
    rfl

theorem isLiteral_of_untilClosed {close : Char} {cs content rest : List Char}
    (h : untilClosed close cs = some (content, rest)) : IsLiteral close cs content rest := by
  fun_induction untilClosed close cs generalizing content rest with
  | case1 => cases h
  | case2 =>
    cases h
    rw [IsLiteral]
    split_ifs with hclose
    · exact ⟨List.not_mem_nil, by rw [hclose]; rfl⟩
    · exact ⟨by simp, rfl⟩
  | case3 d ds hd ih =>
    obtain ⟨⟨content', rest'⟩, hinner, heq⟩ := Option.map_eq_some_iff.1 h
    cases heq
    have hliteral := ih hinner
    rw [IsLiteral, if_neg hd.2] at hliteral ⊢
    refine ⟨hliteral.1, ?_⟩
    rw [doubled, if_pos rfl, hd.1, List.cons_append, List.cons_append, ← hliteral.2]
  | case4 d ds hd =>
    cases h
    rw [IsLiteral]
    split_ifs with hclose
    · exact ⟨List.not_mem_nil, by rw [hclose]; rfl⟩
    · exact ⟨fun heq => hd ⟨Option.some.inj heq, hclose⟩, rfl⟩
  | case5 c cs hc ih =>
    obtain ⟨⟨content', rest'⟩, hinner, heq⟩ := Option.map_eq_some_iff.1 h
    cases heq
    have hliteral := ih hinner
    rw [IsLiteral] at hliteral ⊢
    split_ifs at hliteral ⊢ with hclose
    · refine ⟨fun hmem => ?_, by rw [hliteral.2]; rfl⟩
      obtain rfl | hmem := List.mem_cons.1 hmem
      · exact hc hclose.symm
      · exact hliteral.1 hmem
    · refine ⟨hliteral.1, ?_⟩
      rw [doubled, if_neg hc, List.cons_append, ← hliteral.2]

/-- A literal ends at the first delimiter that does not stand twice. -/
theorem untilClosed_eq_some_iff {close : Char} {cs content rest : List Char} :
    untilClosed close cs = some (content, rest) ↔ IsLiteral close cs content rest := by
  refine ⟨isLiteral_of_untilClosed, fun h => ?_⟩
  rw [IsLiteral] at h
  split_ifs at h with hclose
  · rw [hclose, h.2]
    exact untilClosed_bracket h.1 rest
  · rw [h.2]
    exact untilClosed_doubled hclose content h.1

end Lexeme

theorem IsLiteral.head?_ne {close : Char} {cs content rest : List Char} (h : IsLiteral close cs content rest)
    (hclose : close ≠ ']') : rest.head? ≠ some close := by
  rw [IsLiteral, if_neg hclose] at h
  exact h.1

/-- Anything else can follow a literal, unless its delimiter stands twice then. -/
theorem IsLiteral.exists_append {close : Char} {cs content rest : List Char} (h : IsLiteral close cs content rest) :
    ∃ used, cs = used ++ rest ∧
      ∀ rest', (close ≠ ']' → rest'.head? ≠ some close) → IsLiteral close (used ++ rest') content rest' := by
  by_cases hclose : close = ']'
  · rw [IsLiteral, if_pos hclose] at h
    refine ⟨content ++ [']'], by rw [List.append_assoc]; exact h.2, fun rest' _ => ?_⟩
    rw [IsLiteral, if_pos hclose, List.append_assoc]
    exact ⟨h.1, rfl⟩
  · rw [IsLiteral, if_neg hclose] at h
    refine ⟨doubled close content ++ [close], by rw [List.append_assoc]; exact h.2, fun rest' hrest => ?_⟩
    rw [IsLiteral, if_neg hclose, List.append_assoc]
    exact ⟨hrest hclose, rfl⟩

theorem lexesTo_delimited (kind : Token.Kind) (c close : Char) (content : List Char) {cs rest : List Char}
    {contents : List Token.Content} (hclose : close ∉ [']', ' ']) (hrest : AtBlank rest) (hstart : StartsToken (c :: cs))
    (hread : Lexeme.read c cs = Lexeme.delimited kind close (doubled close content ++ close :: rest))
    (h : LexesTo rest contents) : LexesTo (c :: cs) ((kind, String.ofList content) :: contents) := by
  simp only [List.mem_cons, List.not_mem_nil, or_false, not_or] at hclose
  refine h.cons hstart ?_
  rw [hread, Lexeme.delimited, Lexeme.untilClosed_doubled hclose.1 content (hrest.head?_ne hclose.2)]

theorem lexesTo_text {s : String} {rest : List Char} {contents : List Token.Content} (hrest : AtBlank rest)
    (h : LexesTo rest contents) : LexesTo ((Piece.text s).written ++ rest) ((.string, s) :: contents) := by
  have hresult := lexesTo_delimited .string '\'' '\'' s.toList (by decide) hrest
    (startsToken_of_ne (by decide) (by decide) (by decide)) rfl h
  rw [String.ofList_toList] at hresult
  rw [Piece.written, List.cons_append, List.append_assoc]
  exact hresult

theorem lexesTo_name {s : String} {rest : List Char} {contents : List Token.Content} (hrest : AtBlank rest)
    (h : LexesTo rest contents) : LexesTo ((Piece.name s).written ++ rest) ((.quotedIdentifier, s) :: contents) := by
  have hresult := lexesTo_delimited .quotedIdentifier '"' '"' s.toList (by decide) hrest
    (startsToken_of_ne (by decide) (by decide) (by decide)) rfl h
  rw [String.ofList_toList] at hresult
  rw [Piece.written, List.cons_append, List.append_assoc]
  exact hresult

theorem doubled_of_not_mem {close : Char} {cs : List Char} (h : close ∉ cs) : doubled close cs = cs := by
  induction cs with
  | nil => rfl
  | cons c cs ih =>
    rw [List.mem_cons, not_or] at h
    rw [doubled, if_neg fun heq => h.1 heq.symm, ih h.2]

theorem upperDigit_ne_apostrophe {n : Nat} (hn : n < 16) : Text.Hex.upperDigit n ≠ '\'' := by
  interval_cases n <;> decide

theorem lexesTo_blob {bytes : List UInt8} {rest : List Char} {contents : List Token.Content} (hrest : AtBlank rest)
    (h : LexesTo rest contents) :
    LexesTo ((Piece.blob bytes).written ++ rest) ((.blob, Text.Hex.encodeUpper bytes) :: contents) := by
  have hquote : '\'' ∉ Text.Hex.encodeWith Text.Hex.upperDigit bytes := by
    intro hmem
    obtain ⟨b, -, hb⟩ := List.mem_flatMap.1 hmem
    have hlt := b.toNat_lt
    simp only [List.mem_cons, List.not_mem_nil, or_false] at hb
    obtain heq | heq := hb
    · exact upperDigit_ne_apostrophe (by omega) heq.symm
    · exact upperDigit_ne_apostrophe (by omega) heq.symm
  have hread (cs : List Char) : Lexeme.read 'X' ('\'' :: cs) = Lexeme.delimited .blob '\'' cs := rfl
  have hresult := lexesTo_delimited .blob 'X' '\'' (Text.Hex.encodeWith Text.Hex.upperDigit bytes) (by decide) hrest
    (startsToken_of_ne (by decide) (by decide) (by decide)) (hread _) h
  rw [doubled_of_not_mem hquote] at hresult
  rw [Piece.written, List.cons_append, List.cons_append, List.append_assoc]
  exact hresult

/-! ### Pieces in a row -/

namespace Piece

theorem lexesTo_written {p : Piece} (hp : p.Proper) {rest : List Char} {contents : List Token.Content}
    (hrest : AtBlank rest) (h : LexesTo rest contents) : LexesTo (p.written ++ rest) (p.contents ++ contents) := by
  cases p with
  | word s => exact lexesTo_word hp hrest h
  | symbol s => exact lexesTo_symbol hp hrest h
  | integer i => exact lexesTo_integer hrest h
  | text s => exact lexesTo_text hrest h
  | name s => exact lexesTo_name hrest h
  | blob bytes => exact lexesTo_blob hrest h

theorem lexesTo_line {ps : List Piece} (hps : ∀ p ∈ ps, p.Proper) : LexesTo (line ps) (ps.flatMap contents) := by
  induction ps with
  | nil => exact lexesTo_nil
  | cons p ps ih =>
    obtain ⟨hp, hrest⟩ := List.forall_mem_cons.1 hps
    rw [List.flatMap_cons]
    cases ps with
    | nil =>
      have hlast := lexesTo_written hp (.inl rfl) lexesTo_nil
      rwa [List.append_nil] at hlast
    | cons q ps => exact lexesTo_written hp (.inr ⟨_, rfl⟩) (ih hrest).blank

/-- **Pieces in a row are taken apart into their tokens.** -/
theorem tokenize_line {ps : List Piece} (hps : ∀ p ∈ ps, p.Proper) :
    ∃ ts, tokenize (String.ofList (line ps)) = .ok ts ∧ ts.map Token.content = ps.flatMap contents := by
  rw [tokenize, String.toList_ofList]
  exact lexesTo_line hps _

end Piece

end SqlFormula
