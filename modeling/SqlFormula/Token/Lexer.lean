import SqlFormula.Text.Blank
import SqlFormula.Text.Bytes
import SqlFormula.Text.Letter
import SqlFormula.Token

/-!
# From text to tokens

Blanks and comments separate tokens and are dropped. Every other character belongs to exactly one
token, and each token takes as many characters as its class allows. The only way to fail is a
delimiter that is never closed.

## Main definitions

- `Unterminated` — the error: which delimiter was left open, and where
- `dropFiller` — the text from the next token on
- `Lexeme.read` — the token at the front of a text
- `tokenize` — the tokens of a text
-/

namespace SqlFormula

/-- A delimiter that is never closed. -/
structure Unterminated where
  kind : Token.Kind
  offset : Nat
  deriving DecidableEq, Repr

namespace Unterminated

/-- What was left open, in words. -/
def literal (e : Unterminated) : String :=
  match e.kind with
  | .string => "string literal"
  | .blob => "blob literal"
  | _ => "quoted identifier"

/-- The error in words. -/
def message (e : Unterminated) : String :=
  s!"Unterminated {e.literal} starting at offset {e.offset}"

end Unterminated

open Text

/-- The text after the end of the line. -/
def dropLine : List Char → List Char
  | [] => []
  | c :: cs => if c = '\n' then cs else dropLine cs

/-- The text after the end of a comment; all of it is dropped if the comment is never closed. -/
def dropComment : List Char → List Char
  | [] => []
  | '*' :: '/' :: cs => cs
  | _ :: cs => dropComment cs

theorem length_dropLine_le (cs : List Char) : (dropLine cs).length ≤ cs.length := by
  induction cs with
  | nil => simp [dropLine]
  | cons c cs ih =>
    simp only [dropLine]
    split
    · simp
    · simp
      omega

theorem length_dropComment_le (cs : List Char) : (dropComment cs).length ≤ cs.length := by
  fun_induction dropComment cs with
  | case1 => simp
  | case2 => simp; omega
  | case3 c cs _ ih => simp; omega

/-- The text from the first character on that belongs to a token: without blanks, comments from `--` to
the end of the line and comments between `/*` and `*/`. -/
def dropFiller : List Char → List Char
  | [] => []
  | '-' :: '-' :: cs => dropFiller (dropLine cs)
  | '/' :: '*' :: cs => dropFiller (dropComment cs)
  | c :: cs => if isBlank c then dropFiller cs else c :: cs
termination_by cs => cs.length
decreasing_by
  all_goals simp only [List.length_cons]
  · have := length_dropLine_le cs; omega
  · have := length_dropComment_le cs; omega
  · omega

theorem length_dropFiller_le (cs : List Char) : (dropFiller cs).length ≤ cs.length := by
  fun_induction dropFiller cs with
  | case1 => simp
  | case2 cs ih => have := length_dropLine_le cs; simp; omega
  | case3 cs ih => have := length_dropComment_le cs; simp; omega
  | case4 c cs _ _ _ ih => simp; omega
  | case5 => simp

/-- A token without its place: the kind, the text, and what follows it. -/
structure Lexeme where
  kind : Token.Kind
  text : List Char
  rest : List Char

namespace Lexeme

/-- Whether the text starts with an ASCII digit. -/
def startsWithDigit : List Char → Bool
  | [] => false
  | c :: _ => c.isDigit

/-- The fraction of a number, a point and the digits after it, and what follows it. -/
def splitFraction : List Char → List Char × List Char
  | '.' :: cs => ('.' :: cs.takeWhile Char.isDigit, cs.dropWhile Char.isDigit)
  | cs => ([], cs)

/-- The exponent of a number and what follows it. There is one only where digits follow the `e`, with a
sign before them or not. -/
def splitExponent : List Char → List Char × List Char
  | e :: cs =>
    if e = 'e' ∨ e = 'E' then
      match cs with
      | [] => ([], e :: cs)
      | d :: ds =>
        if d.isDigit then (e :: cs.takeWhile Char.isDigit, cs.dropWhile Char.isDigit)
        else if (d = '+' ∨ d = '-') ∧ startsWithDigit ds then
          (e :: d :: ds.takeWhile Char.isDigit, ds.dropWhile Char.isDigit)
        else ([], e :: cs)
    else ([], e :: cs)
  | [] => ([], [])

/-- Reads a number: digits, a fraction and an exponent. -/
def number (cs : List Char) : Lexeme :=
  let whole := cs.takeWhile Char.isDigit
  let (fraction, afterFraction) := splitFraction (cs.dropWhile Char.isDigit)
  let (exponent, rest) := splitExponent afterFraction
  { kind := .number, text := whole ++ fraction ++ exponent, rest }

/-- The content of a literal and what follows its closing delimiter. A delimiter written twice stands for
itself, except for the square bracket. -/
def untilClosed (close : Char) : List Char → Option (List Char × List Char)
  | [] => none
  | c :: cs =>
    if c = close then
      match cs with
      | [] => some ([], [])
      | d :: ds =>
        if d = close ∧ close ≠ ']' then
          (untilClosed close ds).map fun (text, rest) => (close :: text, rest)
        else some ([], d :: ds)
    else (untilClosed close cs).map fun (text, rest) => (c :: text, rest)

/-- Reads a literal after its opening delimiter; fails with the kind of the literal if it is not closed. -/
def delimited (kind : Token.Kind) (close : Char) (cs : List Char) : Except Token.Kind Lexeme :=
  match untilClosed close cs with
  | some (text, rest) => .ok { kind, text, rest }
  | none => .error kind

/-- A character that can continue a word. -/
def isWordPart (c : Char) : Bool :=
  isAlphanumeric c || c == '_' || c == '$'

/-- Operators of two characters. -/
def isLongSymbol (c d : Char) : Bool :=
  (c, d) ∈ [('<', '='), ('<', '>'), ('>', '='), ('!', '='), ('=', '='), ('|', '|')]

/-- Reads an operator or a punctuation mark that starts with `c`. -/
def symbol (c : Char) : List Char → Lexeme
  | [] => { kind := .symbol, text := [c], rest := [] }
  | d :: ds =>
    if isLongSymbol c d then { kind := .symbol, text := [c, d], rest := ds }
    else { kind := .symbol, text := [c], rest := d :: ds }

/-- Reads the token that starts with `c`. -/
def read (c : Char) (cs : List Char) : Except Token.Kind Lexeme :=
  if c.isDigit || (c == '.' && startsWithDigit cs) then .ok (number (c :: cs))
  else if (c == 'x' || c == 'X') && cs.head? == some '\'' then
    delimited .blob '\'' cs.tail
  else if c == '\'' then delimited .string '\'' cs
  else if c == '"' then delimited .quotedIdentifier '"' cs
  else if c == '`' then delimited .quotedIdentifier '`' cs
  else if c == '[' then delimited .quotedIdentifier ']' cs
  else if isAlphabetic c || c == '_' then
    .ok { kind := .word, text := (c :: cs).takeWhile isWordPart, rest := (c :: cs).dropWhile isWordPart }
  else .ok (symbol c cs)

theorem length_splitFraction_le (cs : List Char) : (splitFraction cs).2.length ≤ cs.length := by
  unfold splitFraction
  split
  · next cs =>
    have := (List.dropWhile_suffix (l := cs) Char.isDigit).length_le
    simp only [List.length_cons]
    omega
  · simp

theorem length_splitExponent_le (cs : List Char) : (splitExponent cs).2.length ≤ cs.length := by
  unfold splitExponent
  split
  · next e cs =>
    split
    · split
      · simp
      · next d ds =>
        have h₁ := (List.dropWhile_suffix (l := d :: ds) Char.isDigit).length_le
        have h₂ := (List.dropWhile_suffix (l := ds) Char.isDigit).length_le
        simp only [List.length_cons] at h₁
        split
        · simp only [List.length_cons]; omega
        · split <;> simp only [List.length_cons] <;> omega
    · simp
  · simp

theorem length_untilClosed_lt (close : Char) {cs text rest : List Char}
    (h : untilClosed close cs = some (text, rest)) : rest.length < cs.length := by
  fun_induction untilClosed close cs generalizing text rest with
  | case1 => simp at h
  | case2 => simp_all
  | case3 d ds _ ih =>
    obtain ⟨⟨t, r⟩, hr, heq⟩ := Option.map_eq_some_iff.1 h
    have := ih hr
    simp only [Prod.mk.injEq] at heq
    simp only [List.length_cons, ← heq.2]
    omega
  | case4 d ds _ =>
    simp only [Option.some.injEq, Prod.mk.injEq] at h
    simp [← h.2]
  | case5 c cs _ ih =>
    obtain ⟨⟨t, r⟩, hr, heq⟩ := Option.map_eq_some_iff.1 h
    have := ih hr
    simp only [Prod.mk.injEq] at heq
    simp only [List.length_cons, ← heq.2]
    omega

theorem length_delimited_lt {kind : Token.Kind} {close : Char} {cs : List Char} {l : Lexeme}
    (h : delimited kind close cs = .ok l) : l.rest.length < cs.length := by
  unfold delimited at h
  split at h
  · next text rest hu =>
    cases h
    exact length_untilClosed_lt close hu
  · cases h

theorem length_delimited_lt_cons {kind : Token.Kind} {close c : Char} {cs : List Char} {l : Lexeme}
    (h : delimited kind close cs = .ok l) : l.rest.length < (c :: cs).length :=
  Nat.lt_succ_of_lt (length_delimited_lt h)

theorem length_number_lt {c : Char} {cs : List Char}
    (h : (c.isDigit || (c == '.' && startsWithDigit cs)) = true) :
    (number (c :: cs)).rest.length < (c :: cs).length := by
  have h₁ := length_splitExponent_le (splitFraction ((c :: cs).dropWhile Char.isDigit)).2
  have h₂ := length_splitFraction_le ((c :: cs).dropWhile Char.isDigit)
  simp only [number]
  by_cases hd : c.isDigit
  · have h₃ := (List.dropWhile_suffix (l := cs) Char.isDigit).length_le
    simp only [List.dropWhile_cons, hd, if_true, List.length_cons] at h₁ h₂ ⊢
    omega
  · simp only [hd, Bool.false_or, Bool.and_eq_true, beq_iff_eq] at h
    obtain ⟨rfl, _⟩ := h
    have h₃ := (List.dropWhile_suffix (l := cs) Char.isDigit).length_le
    simp only [List.dropWhile_cons, hd, splitFraction, List.length_cons] at h₁ h₂ ⊢
    simp only [Bool.false_eq_true, if_false] at h₁ h₂ ⊢
    omega

/-- Every token takes at least one character. -/
theorem length_read_lt {c : Char} {cs : List Char} {l : Lexeme} (h : read c cs = .ok l) :
    l.rest.length < (c :: cs).length := by
  unfold read at h
  split at h
  · next hd =>
    cases h
    exact length_number_lt hd
  split at h
  · -- a blob has a quote behind its first letter
    have := length_delimited_lt h
    simp only [List.length_tail, List.length_cons] at *
    omega
  split at h
  · exact length_delimited_lt_cons h
  split at h
  · exact length_delimited_lt_cons h
  split at h
  · exact length_delimited_lt_cons h
  split at h
  · exact length_delimited_lt_cons h
  split at h
  · next hw =>
    cases h
    have hp : isWordPart c = true := by
      simp only [isWordPart, isAlphanumeric, Bool.or_eq_true] at hw ⊢
      exact hw.elim (fun h => .inl (.inl (.inl h))) (fun h => .inl (.inr h))
    have := (List.dropWhile_suffix (l := cs) isWordPart).length_le
    simp only [List.dropWhile_cons, hp, if_true, List.length_cons]
    omega
  · cases h
    unfold symbol
    split
    · simp
    · split <;> simp only [List.length_cons] <;> omega

end Lexeme

/-- The tokens of the last part `cs` of a text that ends at byte offset `stop`. -/
def tokensFrom (stop : Nat) (cs : List Char) : Except Unterminated (List Token) :=
  match _hf : dropFiller cs with
  | [] => .ok []
  | c :: after =>
    let offset := stop - byteLength (c :: after)
    match _hl : Lexeme.read c after with
    | .error kind => .error { kind, offset }
    | .ok l => do
      let others ← tokensFrom stop l.rest
      .ok ({ kind := l.kind, text := String.ofList l.text, offset } :: others)
termination_by cs.length
decreasing_by
  have h₁ := Lexeme.length_read_lt _hl
  have h₂ := length_dropFiller_le cs
  rw [_hf] at h₂
  omega

/-- The tokens of a text. -/
def tokenize (text : String) : Except Unterminated (List Token) :=
  tokensFrom text.utf8ByteSize text.toList

end SqlFormula
