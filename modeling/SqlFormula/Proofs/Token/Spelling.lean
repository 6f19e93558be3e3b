import SqlFormula.Proofs.Token.Places

/-!
# Tokens as they are written

A token is a word, a number, an operator, or what stands between the delimiters of a literal. Tokens that are written
with single blanks between them are read back, at the byte offsets at which they were written.

## Main definitions

- `Numeral` — the parts of a number
- `IsMark` — a character that is an operator or a punctuation mark on its own
- `Spelling` — a token as it is written
- `Spelling.written`, `Spelling.token` — its characters, and the token that stands at an offset
- `placed` — the tokens of spellings with blanks between them, each at its place

## Main statements

- `Spelling.read_written` — what is written in front of a blank is read as its token
- `tokenize_intercalate` — tokens with blanks between them are read back
-/

namespace SqlFormula

open Text Lexeme

/-! ### Numbers -/

/-- An exponent: its letter, its sign and its digits. -/
structure Exponent where
  letter : Char
  sign : Option Char
  digits : List Char
  letter_mem : letter = 'e' ∨ letter = 'E'
  sign_mem : ∀ c ∈ sign, c = '+' ∨ c = '-'
  digits_ne_nil : digits ≠ []
  isDigit : ∀ c ∈ digits, c.isDigit

/-- A number: the digits in front of the point, those behind it, and an exponent. A digit stands in front of the point or
behind it. -/
structure Numeral where
  whole : List Char
  fraction : Option (List Char)
  exponent : Option Exponent
  isDigit_whole : ∀ c ∈ whole, c.isDigit
  isDigit_fraction : ∀ ds ∈ fraction, ∀ c ∈ ds, c.isDigit
  hasDigit : whole ≠ [] ∨ ∃ ds ∈ fraction, ds ≠ []

def Exponent.written (x : Exponent) : List Char :=
  x.letter :: (x.sign.toList ++ x.digits)

namespace Numeral

variable (n : Numeral) {rest : List Char}

/-- The point and the digits behind it. -/
def fractionText : List Char :=
  n.fraction.elim [] ('.' :: ·)

def exponentText : List Char :=
  n.exponent.elim [] Exponent.written

def written : List Char :=
  n.whole ++ (n.fractionText ++ n.exponentText)

theorem splitExponent_written (x : Exponent) (hrest : Number.EndsDigits rest) :
    splitExponent (x.written ++ rest) = (x.written, rest) := by
  obtain ⟨htake, hdrop⟩ := Number.takeWhile_isDigit x.isDigit hrest
  obtain ⟨d, ds, hds⟩ := List.exists_cons_of_ne_nil x.digits_ne_nil
  have hd : d.isDigit = true := x.isDigit d (hds ▸ List.mem_cons_self)
  rw [Exponent.written]
  cases hsign : x.sign with
  | none =>
    rw [hds, List.cons_append] at htake hdrop
    rw [hds, Option.toList_none, List.nil_append, List.cons_append, List.cons_append,
      splitExponent_cons_cons x.letter_mem, if_pos hd, htake, hdrop]
  | some c =>
    -- a sign is no digit, and a digit comes after it
    have hc : c = '+' ∨ c = '-' := x.sign_mem c hsign
    have hnot : ¬c.isDigit = true := by obtain rfl | rfl := hc <;> decide
    have hnext : startsWithDigit (x.digits ++ rest) = true := by
      rw [hds]
      exact hd
    rw [Option.toList_some, List.singleton_append, List.cons_append, List.cons_append,
      splitExponent_cons_cons x.letter_mem, if_neg hnot, if_pos ⟨hc, hnext⟩, htake, hdrop]

theorem splitExponent_exponentText (hrest : AtBlank rest) :
    splitExponent (n.exponentText ++ rest) = (n.exponentText, rest) := by
  rw [exponentText]
  cases n.exponent with
  | none =>
    obtain rfl | ⟨cs, rfl⟩ := hrest
    · rfl
    · rfl
  | some x => exact splitExponent_written x hrest.endsDigits

/-- Neither an exponent nor a blank goes on with what is in front of it. -/
theorem exponentText_append (hrest : AtBlank rest) :
    Number.EndsDigits (n.exponentText ++ rest) ∧ (n.exponentText ++ rest).head? ≠ some '.' := by
  rw [exponentText]
  cases n.exponent with
  | none => exact ⟨hrest.endsDigits, hrest.head?_ne (by decide)⟩
  | some x =>
    obtain hx | hx := x.letter_mem
    · exact ⟨Number.endsDigits_cons (hx ▸ by decide), fun h => by cases hx.symm.trans (Option.some.inj h)⟩
    · exact ⟨Number.endsDigits_cons (hx ▸ by decide), fun h => by cases hx.symm.trans (Option.some.inj h)⟩

theorem splitFraction_fractionText (hrest : AtBlank rest) :
    splitFraction (n.fractionText ++ (n.exponentText ++ rest)) = (n.fractionText, n.exponentText ++ rest) := by
  obtain ⟨hends, hpoint⟩ := n.exponentText_append hrest
  rw [fractionText]
  cases hfraction : n.fraction with
  | none =>
    rw [Option.elim_none, List.nil_append, splitFraction]
    rintro cs heq
    rw [heq] at hpoint
    exact hpoint rfl
  | some ds =>
    obtain ⟨htake, hdrop⟩ := Number.takeWhile_isDigit (n.isDigit_fraction ds hfraction) hends
    rw [Option.elim_some, List.cons_append, splitFraction, htake, hdrop]

/-- What comes behind the whole part is no digit. -/
theorem endsDigits_fractionText (hrest : AtBlank rest) :
    Number.EndsDigits (n.fractionText ++ (n.exponentText ++ rest)) := by
  rw [fractionText]
  cases n.fraction with
  | none => exact (n.exponentText_append hrest).1
  | some ds => exact Number.endsDigits_cons (by decide)

theorem number_written (hrest : AtBlank rest) :
    Lexeme.number (n.written ++ rest) = { kind := .number, text := n.written, rest } := by
  obtain ⟨htake, hdrop⟩ := Number.takeWhile_isDigit n.isDigit_whole (n.endsDigits_fractionText hrest)
  rw [written, List.append_assoc, List.append_assoc, Lexeme.number]
  simp only [htake, hdrop, n.splitFraction_fractionText hrest, n.splitExponent_exponentText hrest, List.append_assoc]

/-- A number starts with a digit, or with a point and a digit. -/
theorem exists_startsNumber :
    ∃ c cs, n.written = c :: cs ∧ (c.isDigit = true ∨ c = '.' ∧ startsWithDigit cs = true) := by
  cases hwhole : n.whole with
  | cons c cs =>
    refine ⟨c, cs ++ (n.fractionText ++ n.exponentText), by rw [written, hwhole]; rfl, .inl ?_⟩
    exact n.isDigit_whole c (hwhole ▸ List.mem_cons_self)
  | nil =>
    obtain hne | ⟨ds, hfraction, hne⟩ := n.hasDigit
    · exact absurd hwhole hne
    · obtain ⟨d, ds', rfl⟩ := List.exists_cons_of_ne_nil hne
      have htext : n.fractionText = '.' :: d :: ds' := by
        rw [fractionText, Option.mem_def.1 hfraction]
        rfl
      refine ⟨'.', d :: (ds' ++ n.exponentText), by rw [written, hwhole, htext]; rfl, .inr ⟨rfl, ?_⟩⟩
      exact n.isDigit_fraction _ hfraction d List.mem_cons_self

end Numeral

/-! ### Spellings -/

/-- A character that is an operator or a punctuation mark on its own: it starts no other token. -/
structure IsMark (c : Char) : Prop where
  notBlank : isBlank c = false
  notDigit : c.isDigit = false
  notDelimiter : c ∉ ['\'', '"', '`', '[']
  notWord : (isAlphabetic c || c == '_') = false

/-- A token as it is written. -/
inductive Spelling where
  | word (s : String) (h : IsWord s)
  | number (n : Numeral)
  /-- What stands between delimiters; between square brackets there is no closing one. -/
  | literal (kind : Token.Kind) (opening : List Char) (close : Char) (content : String)
      (hdelimiters : (kind, opening, close) ∈ delimiters) (hbracket : close = ']' → ']' ∉ content.toList)
  | mark (c : Char) (h : IsMark c)
  | longMark (c d : Char) (h : isLongSymbol c d = true)

namespace Spelling

/-- The characters of a token: in a literal its delimiters, and the closing one twice where it is part of the content. -/
def chars : Spelling → List Char
  | .word s _ => s.toList
  | .number n => n.written
  | .literal _ opening close content _ _ =>
    opening ++ ((if close = ']' then content.toList else doubled close content.toList) ++ [close])
  | .mark c _ => [c]
  | .longMark c d _ => [c, d]

/-- A token as text. -/
def written (w : Spelling) : String :=
  String.ofList w.chars

/-- What is written, without its place. -/
def content : Spelling → Token.Content
  | .word s _ => (.word, s)
  | .number n => (.number, String.ofList n.written)
  | .literal kind _ _ content _ _ => (kind, content)
  | .mark c _ => (.symbol, String.singleton c)
  | .longMark c d _ => (.symbol, String.ofList [c, d])

/-- The token that is written at an offset. -/
def token (w : Spelling) (offset : Nat) : Token :=
  { kind := w.content.1, text := w.content.2, offset }

/-- Characters in front of others are read as a token with some content, which ends where the others begin. -/
def ReadsAs (cs rest : List Char) (content : Token.Content) : Prop :=
  ∃ c after, cs ++ rest = c :: after ∧ StartsToken (c :: after) ∧
    Lexeme.read c after = .ok { kind := content.1, text := content.2.toList, rest }

variable {rest : List Char}

theorem readsAs_word {s : String} (h : IsWord s) (hrest : EndsWord rest) : ReadsAs s.toList rest (.word, s) := by
  obtain ⟨c, cs, heq, hstart, hread⟩ := read_word h hrest
  refine ⟨c, cs ++ rest, by rw [heq]; rfl, hstart, ?_⟩
  rw [hread, heq]

theorem readsAs_number (n : Numeral) (hrest : AtBlank rest) :
    ReadsAs n.written rest (.number, String.ofList n.written) := by
  obtain ⟨c, cs, heq, hstart⟩ := n.exists_startsNumber
  have hnumber := n.number_written hrest
  rw [heq, List.cons_append] at hnumber
  have hread : startsNumber c (cs ++ rest) = true := by
    obtain hdigit | ⟨rfl, hdigit⟩ := hstart
    · rw [startsNumber, hdigit, Bool.true_or]
    · cases cs with
      | nil => cases hdigit
      | cons d ds => exact hdigit
  have htoken : StartsToken (c :: (cs ++ rest)) := by
    obtain hdigit | ⟨rfl, -⟩ := hstart
    · exact startsToken_of_ne (Number.isBlank_of_isDigit hdigit) (Number.ne_of_isDigit hdigit (by decide))
        (Number.ne_of_isDigit hdigit (by decide))
    · exact startsToken_of_ne (by decide) (by decide) (by decide)
  refine ⟨c, cs ++ rest, by rw [heq]; rfl, htoken, ?_⟩
  rw [read_eq, if_pos hread, hnumber, heq, String.toList_ofList]

/-- After its opening delimiter, a literal is read up to its closing one. -/
theorem exists_delimited {kind : Token.Kind} {opening : List Char} {close : Char}
    (h : (kind, opening, close) ∈ delimiters) :
    close ≠ ' ' ∧ ∃ c front, opening = c :: front ∧ ∀ cs, StartsToken (c :: (front ++ cs)) ∧
      Lexeme.read c (front ++ cs) = delimited kind close cs := by
  simp only [delimiters, List.mem_cons, Prod.mk.injEq, List.not_mem_nil, or_false] at h
  rcases h with ⟨rfl, rfl, rfl⟩ | ⟨rfl, rfl, rfl⟩ | ⟨rfl, rfl, rfl⟩ | ⟨rfl, rfl, rfl⟩ | ⟨rfl, rfl, rfl⟩ | ⟨rfl, rfl, rfl⟩
  all_goals
    exact ⟨by decide, _, _, rfl, fun cs => ⟨startsToken_of_ne (by decide) (by decide) (by decide), rfl⟩⟩

theorem readsAs_literal {kind : Token.Kind} {opening : List Char} {close : Char} {content : String}
    (hdelimiters : (kind, opening, close) ∈ delimiters) (hbracket : close = ']' → ']' ∉ content.toList)
    (hrest : rest.head? ≠ some close) :
    ReadsAs (chars (.literal kind opening close content hdelimiters hbracket)) rest (kind, content) := by
  obtain ⟨-, c, front, rfl, hread⟩ := exists_delimited hdelimiters
  have hliteral : IsLiteral close
      ((if close = ']' then content.toList else doubled close content.toList) ++ [close] ++ rest) content.toList rest := by
    rw [IsLiteral, List.append_assoc]
    split_ifs with hclose
    · exact ⟨hbracket hclose, by rw [hclose]; rfl⟩
    · exact ⟨hrest, rfl⟩
  obtain ⟨hstart, hdelimited⟩ := hread
    ((if close = ']' then content.toList else doubled close content.toList) ++ [close] ++ rest)
  refine ⟨c, _, ?_, hstart, ?_⟩
  · rw [chars, List.cons_append, List.cons_append, List.append_assoc]
  · rw [hdelimited, delimited, untilClosed_eq_some_iff.2 hliteral]

theorem readPlain_mark {c : Char} (h : IsMark c) (cs : List Char) : readPlain c cs = .ok (symbol c cs) := by
  have hdelimiter := h.notDelimiter
  simp only [List.mem_cons, List.not_mem_nil, or_false, not_or] at hdelimiter
  obtain ⟨hapostrophe, hdouble, hback, hbracket⟩ := hdelimiter
  simp only [readPlain, beq_eq_false_iff_ne.2 hapostrophe, beq_eq_false_iff_ne.2 hdouble, beq_eq_false_iff_ne.2 hback,
    beq_eq_false_iff_ne.2 hbracket, h.notWord, Bool.false_eq_true, if_false]

/-- A mark is read as an operator or a punctuation mark, unless a digit follows a point. -/
theorem read_mark {c : Char} (h : IsMark c) {cs : List Char} (hdigit : startsWithDigit cs = false) :
    Lexeme.read c cs = .ok (symbol c cs) := by
  have hnumber : ¬startsNumber c cs = true := by
    rw [startsNumber, h.notDigit, hdigit, Bool.and_false]
    exact Bool.false_ne_true
  -- an `X` starts a word
  have hblob : ¬startsBlob c cs = true := by
    have hx (d : Char) (hd : isAlphabetic d = true) : (c == d) = false := by
      refine beq_eq_false_iff_ne.2 ?_
      rintro rfl
      have hword := h.notWord
      rw [hd] at hword
      cases hword
    rw [startsBlob, hx 'x' (by decide), hx 'X' (by decide)]
    exact Bool.false_ne_true
  rw [read_eq, if_neg hnumber, if_neg hblob, readPlain_mark h]

theorem startsWithDigit_of_atBlank (hrest : AtBlank rest) : startsWithDigit rest = false := by
  obtain rfl | ⟨cs, rfl⟩ := hrest
  · rfl
  · rfl

theorem readsAs_mark {c : Char} (h : IsMark c) (hrest : AtBlank rest) :
    ReadsAs [c] rest (.symbol, String.singleton c) := by
  have hstart : StartsToken (c :: rest) :=
    startsToken_cons h.notBlank (fun _ => hrest.head?_ne (by decide)) fun _ => hrest.head?_ne (by decide)
  refine ⟨c, rest, rfl, hstart, ?_⟩
  rw [read_mark h (startsWithDigit_of_atBlank hrest), symbol_of_atBlank c hrest]
  simp only [String.toList_singleton]

theorem readsAs_longMark {c d : Char} (h : isLongSymbol c d = true) :
    ReadsAs [c, d] rest (.symbol, String.ofList [c, d]) := by
  have hread : Lexeme.read c (d :: rest) = .ok (symbol c (d :: rest)) ∧ StartsToken (c :: d :: rest) := by
    simp only [isLongSymbol, List.mem_cons, Prod.mk.injEq, List.not_mem_nil, or_false, decide_eq_true_eq] at h
    rcases h with ⟨rfl, rfl⟩ | ⟨rfl, rfl⟩ | ⟨rfl, rfl⟩ | ⟨rfl, rfl⟩ | ⟨rfl, rfl⟩ | ⟨rfl, rfl⟩
    all_goals exact ⟨rfl, startsToken_of_ne (by decide) (by decide) (by decide)⟩
  refine ⟨c, d :: rest, rfl, hread.2, ?_⟩
  rw [hread.1, symbol, if_pos h, String.toList_ofList]

/-- What is written in front of a blank is read as its token. -/
theorem read_written (w : Spelling) (hrest : AtBlank rest) : ReadsAs w.chars rest w.content := by
  cases w with
  | word s h => exact readsAs_word h hrest.endsWord
  | number n => exact readsAs_number n hrest
  | literal kind opening close content hdelimiters hbracket =>
    exact readsAs_literal hdelimiters hbracket (hrest.head?_ne (exists_delimited hdelimiters).1)
  | mark c h => exact readsAs_mark h hrest
  | longMark c d h => exact readsAs_longMark h

end Spelling

/-! ### Spellings in a row -/

/-- The tokens of spellings with single blanks between them, the first of which is written at an offset. -/
def placed (offset : Nat) : List Spelling → List Token
  | [] => []
  | w :: ws => w.token offset :: placed (offset + w.written.utf8ByteSize + 1) ws

/-- What is read as a token stands at the offset where it is written, and what comes behind it is left. -/
theorem Spelling.ReadsAs.tokensFrom_eq {cs rest : List Char} {content : Token.Content} (h : ReadsAs cs rest content)
    {stop : Nat} (offset : Nat) (hstop : stop = offset + byteLength (cs ++ rest)) :
    tokensFrom stop (cs ++ rest) =
      ({ kind := content.1, text := content.2, offset } :: ·) <$> tokensFrom stop rest := by
  obtain ⟨c, after, heq, hstart, hread⟩ := h
  rw [hstop, heq, tokensFrom_cons hstart hread, String.ofList_toList, Nat.add_sub_cancel]

theorem tokensFrom_placed (ws : List Spelling) (offset : Nat) :
    tokensFrom (offset + byteLength ([' '].intercalate (ws.map Spelling.chars)))
      ([' '].intercalate (ws.map Spelling.chars)) = .ok (placed offset ws) := by
  induction ws generalizing offset with
  | nil => exact tokensFrom_nil dropFiller_nil _
  | cons w ws ih =>
    cases ws with
    | nil =>
      have hlast := (w.read_written (.inl rfl)).tokensFrom_eq offset rfl
      rw [tokensFrom_nil dropFiller_nil, List.append_nil] at hlast
      rw [List.map_cons, List.map_nil, List.intercalate_singleton, hlast]
      rfl
    | cons w' ws =>
      rw [List.map_cons, List.map_cons, List.intercalate_cons_cons, ← List.map_cons, List.append_assoc,
        List.singleton_append, (w.read_written (.inr ⟨_, rfl⟩)).tokensFrom_eq offset rfl, tokensFrom_eq,
        dropFiller_blank (by decide), ← tokensFrom_eq]
      -- the others start behind the blank
      have hbytes (cs : List Char) : offset + byteLength (w.chars ++ ' ' :: cs) =
          offset + w.written.utf8ByteSize + 1 + byteLength cs := by
        have hblank : byteLength (' ' :: cs) = 1 + byteLength cs := byteLength_append [' '] cs
        rw [byteLength_append, hblank, Spelling.written, ← byteLength_toList, String.toList_ofList]
        omega
      rw [hbytes, ih]
      rfl

/-- **Tokens that are written with single blanks between them are read back**: the same kinds, the same texts, and the
byte offsets at which they were written. -/
theorem tokenize_intercalate (ws : List Spelling) :
    tokenize (" ".intercalate (ws.map Spelling.written)) = .ok (placed 0 ws) := by
  have hlist : (" ".intercalate (ws.map Spelling.written)).toList = [' '].intercalate (ws.map Spelling.chars) := by
    rw [String.toList_intercalate, List.map_map]
    have hchars : String.toList ∘ Spelling.written = Spelling.chars := funext fun w => String.toList_ofList
    rw [hchars]
    rfl
  have hplaced := tokensFrom_placed ws 0
  rwa [← hlist, byteLength_toList, Nat.zero_add] at hplaced

end SqlFormula
