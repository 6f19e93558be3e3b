import SqlFormula.Proofs.Token.Joining

/-!
# Places of tokens

The text from the place of a token on is taken apart into this token and those after it. A literal that is never closed
is reported at the place where it opens, and the text before it is taken apart without an error.

## Main definitions

- `delimiters` — what opens and what closes a literal of each kind
- `IsUnclosed` — a text opens a literal that is never closed

## Main statements

- `exists_filler` — what is dropped in front of a token does not depend on what follows
- `Lexeme.read_cut` — a token is read in the same way if the text breaks off anywhere behind it
- `tokensFrom_split`, `tokensFrom_error` — the text in front of a token and from it on, and the text before an error
- `tokenize_places` — the places of tokens and of errors
-/

namespace SqlFormula

open Text

/-! ### Blanks and comments that end -/

theorem exists_dropLine {cs : List Char} (h : dropLine cs ≠ []) :
    ∃ line, cs = line ++ dropLine cs ∧ ∀ rest, dropLine (line ++ rest) = rest := by
  induction cs with
  | nil => exact absurd rfl h
  | cons c cs ih =>
    by_cases hc : c = '\n'
    · exact ⟨[c], by simp [dropLine, hc], by simp [dropLine, hc]⟩
    · have hdrop : dropLine (c :: cs) = dropLine cs := if_neg hc
      rw [hdrop] at h ⊢
      obtain ⟨line, hline, hrest⟩ := ih h
      refine ⟨c :: line, by rw [List.cons_append, ← hline], fun rest => ?_⟩
      rw [List.cons_append, dropLine, if_neg hc, hrest]

theorem exists_dropComment {cs : List Char} (h : dropComment cs ≠ []) :
    ∃ c comment, cs = c :: comment ++ dropComment cs ∧ ∀ rest, dropComment (c :: comment ++ rest) = rest := by
  fun_induction dropComment cs with
  | case1 => exact absurd rfl h
  | case2 cs => exact ⟨'*', ['/'], rfl, fun _ => rfl⟩
  | case3 c cs hopen ih =>
    obtain ⟨d, comment, hcs, hrest⟩ := ih h
    refine ⟨c, d :: comment, congrArg (c :: ·) hcs, fun rest => ?_⟩
    rw [List.cons_append, dropComment, hrest]
    intro ds hc hds
    -- the comment goes on as the whole text does
    obtain ⟨rfl, -⟩ := List.cons.inj hds
    exact hopen _ hc hcs

/-- What is dropped in front of a token is dropped in the same way in front of anything else. -/
theorem exists_filler {cs : List Char} (h : dropFiller cs ≠ []) :
    ∃ filler, cs = filler ++ dropFiller cs ∧ ∀ rest, dropFiller (filler ++ rest) = dropFiller rest := by
  fun_induction dropFiller cs with
  | case1 => exact absurd rfl h
  | case2 cs ih =>
    obtain ⟨filler, hfiller, hrest⟩ := ih h
    have hline : dropLine cs ≠ [] := by
      intro hnil
      rw [hnil, dropFiller_nil] at h
      exact h rfl
    obtain ⟨line, hcs, hdrop⟩ := exists_dropLine hline
    refine ⟨'-' :: '-' :: (line ++ filler), ?_, fun rest => ?_⟩
    · rw [List.cons_append, List.cons_append, List.append_assoc, ← hfiller, ← hcs]
    · rw [List.cons_append, List.cons_append, dropFiller_line, List.append_assoc, hdrop, hrest]
  | case3 cs ih =>
    obtain ⟨filler, hfiller, hrest⟩ := ih h
    have hcomment : dropComment cs ≠ [] := by
      intro hnil
      rw [hnil, dropFiller_nil] at h
      exact h rfl
    obtain ⟨c, comment, hcs, hdrop⟩ := exists_dropComment hcomment
    refine ⟨'/' :: '*' :: (c :: comment ++ filler), ?_, fun rest => ?_⟩
    · rw [List.cons_append, List.cons_append, List.append_assoc, ← hfiller, ← hcs]
    · rw [List.cons_append, List.cons_append, dropFiller_comment, List.append_assoc, hdrop, hrest]
  | case4 c cs _ _ hblank ih =>
    obtain ⟨filler, hfiller, hrest⟩ := ih h
    refine ⟨c :: filler, by rw [List.cons_append, ← hfiller], fun rest => ?_⟩
    -- a blank starts no comment
    have hne {d : Char} (hd : isBlank d = false) : c ≠ d := by
      rintro rfl
      rw [hblank] at hd
      cases hd
    rw [List.cons_append, dropFiller_cons (fun hc => absurd hc (hne (by decide))) fun hc => absurd hc (hne (by decide)),
      if_pos hblank, hrest]
  | case5 => exact ⟨[], rfl, fun _ => rfl⟩

theorem exists_filler_of_cons {c : Char} {cs after : List Char} (h : dropFiller cs = c :: after) :
    ∃ filler, cs = filler ++ c :: after ∧ ∀ rest, dropFiller (filler ++ rest) = dropFiller rest := by
  have hne : dropFiller cs ≠ [] := h ▸ List.cons_ne_nil c after
  obtain ⟨filler, hcs, hrest⟩ := exists_filler hne
  rw [h] at hcs
  exact ⟨filler, hcs, hrest⟩

theorem dropFiller_eq_nil {filler : List Char} (h : ∀ rest, dropFiller (filler ++ rest) = dropFiller rest) :
    dropFiller filler = [] := by
  have hnil := h []
  rwa [List.append_nil, dropFiller_nil] at hnil

theorem startsToken_dropFiller (cs : List Char) : StartsToken (dropFiller cs) := by
  by_cases h : dropFiller cs = []
  · rw [h]
    exact dropFiller_nil
  · obtain ⟨filler, hcs, hrest⟩ := exists_filler h
    rw [StartsToken, ← hrest, ← hcs]

theorem head?_ne_of_cut {cs ds : List Char} (h : cs <+: ds) {c : Char} (hc : ds.head? ≠ some c) :
    cs.head? ≠ some c := by
  cases cs with
  | nil => exact nofun
  | cons d cs =>
    obtain ⟨rest, rfl⟩ := h
    exact hc

/-- Nothing is dropped only in front of what is neither a blank nor the start of a comment: the rest would be shorter. -/
theorem startsToken_cons_iff {c : Char} {cs : List Char} : StartsToken (c :: cs) ↔
    isBlank c = false ∧ (c = '-' → cs.head? ≠ some '-') ∧ (c = '/' → cs.head? ≠ some '*') := by
  refine ⟨fun h => ?_, fun h => startsToken_cons h.1 h.2.1 h.2.2⟩
  have hlength := congrArg List.length h
  rw [List.length_cons] at hlength
  have hline : c = '-' → cs.head? ≠ some '-' := by
    rintro rfl hhead
    obtain ⟨ds, rfl⟩ := List.head?_eq_some_iff.1 hhead
    have hle := (length_dropFiller_le (dropLine ds)).trans (length_dropLine_le ds)
    rw [dropFiller_line, List.length_cons] at hlength
    omega
  have hcomment : c = '/' → cs.head? ≠ some '*' := by
    rintro rfl hhead
    obtain ⟨ds, rfl⟩ := List.head?_eq_some_iff.1 hhead
    have hle := (length_dropFiller_le (dropComment ds)).trans (length_dropComment_le ds)
    rw [dropFiller_comment, List.length_cons] at hlength
    omega
  refine ⟨Bool.eq_false_iff.2 fun hblank => ?_, hline, hcomment⟩
  have hle := length_dropFiller_le cs
  rw [dropFiller_cons hline hcomment, if_pos hblank] at hlength
  omega

/-- Where a token starts, one starts also if the text breaks off. -/
theorem StartsToken.cut {c : Char} {cs rest : List Char} (h : StartsToken (c :: cs)) (hrest : rest <+: cs) :
    StartsToken (c :: rest) := by
  obtain ⟨hblank, hline, hcomment⟩ := startsToken_cons_iff.1 h
  exact startsToken_cons hblank (fun hc => head?_ne_of_cut hrest (hline hc))
    fun hc => head?_ne_of_cut hrest (hcomment hc)

/-! ### Literals -/

/-- What opens and what closes a literal of each kind. -/
def delimiters : List (Token.Kind × List Char × Char) :=
  [(.string, ['\''], '\''), (.blob, ['x', '\''], '\''), (.blob, ['X', '\''], '\''), (.quotedIdentifier, ['"'], '"'),
    (.quotedIdentifier, ['`'], '`'), (.quotedIdentifier, ['['], ']')]

/-- A text opens a literal of some kind that is never closed. -/
def IsUnclosed (kind : Token.Kind) (cs : List Char) : Prop :=
  ∃ opening close inside, (kind, opening, close) ∈ delimiters ∧ cs = opening ++ inside ∧
    ∀ content rest, ¬IsLiteral close inside content rest

namespace Lexeme

theorem not_isLiteral_of_delimited {kind kind' : Token.Kind} {close : Char} {cs : List Char}
    (h : delimited kind close cs = .error kind') : kind' = kind ∧ ∀ content rest, ¬IsLiteral close cs content rest := by
  rw [delimited] at h
  split at h
  · cases h
  · next hnone =>
    cases h
    refine ⟨rfl, fun content rest hliteral => ?_⟩
    rw [untilClosed_eq_some_iff.2 hliteral] at hnone
    cases hnone

/-- Only a literal that is never closed is no token. -/
theorem isUnclosed_of_read {c : Char} {cs : List Char} {kind : Token.Kind} (h : read c cs = .error kind) :
    IsUnclosed kind (c :: cs) := by
  have hquoted {kind' : Token.Kind} {opening close : Char} (hmem : (kind', [opening], close) ∈ delimiters)
      (hc : (c == opening) = true) (h : delimited kind' close cs = .error kind) : IsUnclosed kind (c :: cs) := by
    obtain ⟨rfl, hopen⟩ := not_isLiteral_of_delimited h
    obtain rfl := beq_iff_eq.1 hc
    exact ⟨[c], close, cs, hmem, rfl, hopen⟩
  rw [read] at h
  split_ifs at h with hnumber hblob hstring hdouble hback hbracket hword
  · obtain ⟨rfl, hopen⟩ := not_isLiteral_of_delimited h
    simp only [Bool.and_eq_true, Bool.or_eq_true, beq_iff_eq] at hblob
    obtain ⟨hx, hquote⟩ := hblob
    obtain ⟨ds, rfl⟩ := List.head?_eq_some_iff.1 hquote
    exact ⟨[c, '\''], '\'', ds, by obtain rfl | rfl := hx <;> decide, rfl, hopen⟩
  · exact hquoted (by decide) hstring h
  · exact hquoted (by decide) hdouble h
  · exact hquoted (by decide) hback h
  · exact hquoted (by decide) hbracket h

/-! ### Texts that break off behind a token -/

theorem span_cut (p : Char → Bool) {cs rest : List Char} (h : rest <+: cs.dropWhile p) :
    (cs.takeWhile p ++ rest).takeWhile p = cs.takeWhile p ∧ (cs.takeWhile p ++ rest).dropWhile p = rest := by
  have hhead : rest.takeWhile p = [] ∧ rest.dropWhile p = rest := by
    cases rest with
    | nil => exact ⟨rfl, rfl⟩
    | cons c rest =>
      obtain ⟨ds, hds⟩ := h
      have hc := List.head?_dropWhile_not p cs
      rw [← hds] at hc
      have hc : p c = false := by simpa using hc
      simp [hc]
  have hall : ∀ c ∈ cs.takeWhile p, p c = true := fun c hc => List.mem_takeWhile_imp hc
  rw [List.takeWhile_append_of_pos hall, List.dropWhile_append_of_pos hall, hhead.1, hhead.2, List.append_nil]
  exact ⟨rfl, rfl⟩

/-- A text is split at some place, and at the same place if it breaks off behind it. -/
def SplitsSame (split : List Char → List Char × List Char) (cs : List Char) : Prop :=
  (split cs).1 ++ (split cs).2 = cs ∧ ∀ rest, rest <+: (split cs).2 → split ((split cs).1 ++ rest) = ((split cs).1, rest)

theorem startsWithDigit_iff {cs : List Char} : startsWithDigit cs = true ↔ cs.takeWhile Char.isDigit ≠ [] := by
  cases cs with
  | nil => exact iff_of_false Bool.false_ne_true fun h => h rfl
  | cons d ds => by_cases hd : d.isDigit <;> simp [startsWithDigit, hd]

theorem startsWithDigit_of_cut {cs ds : List Char} (h : cs <+: ds) (hds : startsWithDigit ds = false) :
    startsWithDigit cs = false := by
  cases cs with
  | nil => rfl
  | cons c cs =>
    obtain ⟨rest, rfl⟩ := h
    exact hds

theorem splitFraction_cut (cs : List Char) : SplitsSame splitFraction cs := by
  unfold SplitsSame
  fun_cases splitFraction cs with
  | case1 cs =>
    refine ⟨congrArg ('.' :: ·) List.takeWhile_append_dropWhile, fun rest hrest => ?_⟩
    obtain ⟨htake, hdrop⟩ := span_cut Char.isDigit hrest
    rw [List.cons_append, splitFraction, htake, hdrop]
  | case2 cs hpoint =>
    refine ⟨rfl, fun rest hrest => ?_⟩
    rw [List.nil_append, splitFraction]
    rintro ds rfl
    obtain ⟨es, rfl⟩ := hrest
    exact hpoint _ rfl

theorem splitExponent_singleton (e : Char) : splitExponent [e] = ([], [e]) := by
  show (if e = 'e' ∨ e = 'E' then ([], [e]) else ([], [e])) = _
  exact ite_self _

theorem splitExponent_cons_cons {e : Char} (he : e = 'e' ∨ e = 'E') (d : Char) (ds : List Char) :
    splitExponent (e :: d :: ds) =
      if d.isDigit then (e :: (d :: ds).takeWhile Char.isDigit, (d :: ds).dropWhile Char.isDigit)
      else if (d = '+' ∨ d = '-') ∧ startsWithDigit ds then
        (e :: d :: ds.takeWhile Char.isDigit, ds.dropWhile Char.isDigit)
      else ([], e :: d :: ds) :=
  if_pos he

theorem splitExponent_cut (cs : List Char) : SplitsSame splitExponent cs := by
  unfold SplitsSame
  fun_cases splitExponent cs with
  | case1 e he =>
    refine ⟨rfl, fun rest hrest => ?_⟩
    obtain rfl | ⟨es, rfl, hes⟩ := List.prefix_cons_iff.1 hrest
    · rfl
    · obtain rfl := List.prefix_nil.1 hes
      exact splitExponent_singleton e
  | case2 e he d ds hd =>
    -- digits behind the `e`
    refine ⟨congrArg (e :: ·) List.takeWhile_append_dropWhile, fun rest hrest => ?_⟩
    obtain ⟨htake, hdrop⟩ := span_cut Char.isDigit hrest
    rw [List.takeWhile_cons, if_pos hd, List.cons_append] at htake hdrop
    rw [List.takeWhile_cons, if_pos hd, List.cons_append, List.cons_append, splitExponent_cons_cons he, if_pos hd, htake,
      hdrop]
  | case3 e he d ds hd hsign =>
    -- a sign between the `e` and the digits
    refine ⟨congrArg (e :: d :: ·) List.takeWhile_append_dropWhile, fun rest hrest => ?_⟩
    obtain ⟨htake, hdrop⟩ := span_cut Char.isDigit hrest
    have hdigit : startsWithDigit (ds.takeWhile Char.isDigit ++ rest) = true := by
      cases ds with
      | nil => exact absurd hsign.2 (by decide)
      | cons d' ds =>
        have hd' : d'.isDigit = true := hsign.2
        rw [List.takeWhile_cons, if_pos hd']
        exact hd'
    rw [List.cons_append, List.cons_append, splitExponent_cons_cons he, if_neg hd, if_pos ⟨hsign.1, hdigit⟩, htake,
      hdrop]
  | case4 e he d ds hd hsign =>
    refine ⟨rfl, fun rest hrest => ?_⟩
    obtain rfl | ⟨es, rfl, hes⟩ := List.prefix_cons_iff.1 hrest
    · rfl
    obtain rfl | ⟨fs, rfl, hfs⟩ := List.prefix_cons_iff.1 hes
    · exact splitExponent_singleton e
    -- no digits behind the `e`, and none if the text breaks off
    have hnot : ¬((d = '+' ∨ d = '-') ∧ startsWithDigit fs = true) := by
      rintro ⟨hd', hdigit⟩
      have hds : startsWithDigit ds = false := by simpa [hd'] using hsign
      rw [startsWithDigit_of_cut hfs hds] at hdigit
      cases hdigit
    rw [List.nil_append, splitExponent_cons_cons he, if_neg hd, if_neg hnot]
  | case5 e cs he =>
    refine ⟨rfl, fun rest hrest => ?_⟩
    obtain rfl | ⟨es, rfl, -⟩ := List.prefix_cons_iff.1 hrest
    · rfl
    · exact if_neg he
  | case6 =>
    refine ⟨rfl, fun rest hrest => ?_⟩
    obtain rfl := List.prefix_nil.1 hrest
    rfl

theorem number_cut (cs : List Char) : (number cs).text ++ (number cs).rest = cs ∧
    ∀ rest, rest <+: (number cs).rest → number ((number cs).text ++ rest) = { number cs with rest } := by
  have hfraction := splitFraction_cut (cs.dropWhile Char.isDigit)
  have hexponent := splitExponent_cut (splitFraction (cs.dropWhile Char.isDigit)).2
  rw [SplitsSame] at hfraction hexponent
  simp only [number]
  set fraction := splitFraction (cs.dropWhile Char.isDigit)
  set exponent := splitExponent fraction.2
  refine ⟨?_, fun rest hrest => ?_⟩
  · rw [List.append_assoc, List.append_assoc, hexponent.1, hfraction.1, List.takeWhile_append_dropWhile]
  · have hback : exponent.1 ++ rest <+: fraction.2 := by
      rw [← hexponent.1]
      exact (List.prefix_append_right_inj _).2 hrest
    have hmiddle : fraction.1 ++ (exponent.1 ++ rest) <+: cs.dropWhile Char.isDigit := by
      rw [← hfraction.1]
      exact (List.prefix_append_right_inj _).2 hback
    obtain ⟨htake, hdrop⟩ := span_cut Char.isDigit hmiddle
    simp only [List.append_assoc, htake, hdrop, hfraction.2 _ hback, hexponent.2 _ hrest]

/-- Whether a number starts with a character depends on what stands behind it only if that is a point. -/
def startsNumber (c : Char) (cs : List Char) : Bool :=
  c.isDigit || c == '.' && startsWithDigit cs

theorem startsNumber_cut {c : Char} {cs : List Char} (h : startsNumber c cs = true) :
    ∃ used, cs = used ++ (number (c :: cs)).rest ∧ ∀ rest, rest <+: (number (c :: cs)).rest →
      startsNumber c (used ++ rest) = true ∧ number (c :: (used ++ rest)) = { number (c :: cs) with rest } := by
  obtain ⟨hcs, hcut⟩ := number_cut (c :: cs)
  by_cases hc : c.isDigit = true
  · have htext : (number (c :: cs)).text = c :: (number (c :: cs)).text.tail := by
      simp [number, hc]
    rw [htext] at hcs hcut
    exact ⟨_, (List.cons.inj hcs).2.symm, fun rest hrest => ⟨by rw [startsNumber, hc, Bool.true_or], hcut rest hrest⟩⟩
  · rw [startsNumber, Bool.eq_false_iff.2 hc, Bool.false_or, Bool.and_eq_true, beq_iff_eq] at h
    obtain ⟨rfl, hdigit⟩ := h
    cases cs with
    | nil => cases hdigit
    | cons d ds =>
      have hd : d.isDigit = true := hdigit
      have htext : (number ('.' :: d :: ds)).text = '.' :: d :: (number ('.' :: d :: ds)).text.tail.tail := by
        simp [number, splitFraction, hd]
      rw [htext] at hcs hcut
      exact ⟨_, (List.cons.inj hcs).2.symm, fun rest hrest => ⟨hd, hcut rest hrest⟩⟩

theorem symbol_cut (c : Char) (cs : List Char) : ∃ used, cs = used ++ (symbol c cs).rest ∧
    ∀ rest, rest <+: (symbol c cs).rest → symbol c (used ++ rest) = { symbol c cs with rest } := by
  fun_cases symbol c cs with
  | case1 =>
    refine ⟨[], rfl, fun rest hrest => ?_⟩
    obtain rfl := List.prefix_nil.1 hrest
    rfl
  | case2 d ds hlong => exact ⟨[d], rfl, fun rest _ => if_pos hlong⟩
  | case3 d ds hlong =>
    refine ⟨[], rfl, fun rest hrest => ?_⟩
    obtain rfl | ⟨es, rfl, -⟩ := List.prefix_cons_iff.1 hrest
    · rfl
    · exact if_neg hlong

theorem delimited_cut {kind : Token.Kind} {close : Char} {cs : List Char} {l : Lexeme}
    (h : delimited kind close cs = .ok l) :
    ∃ used, cs = used ++ l.rest ∧ ∀ rest, rest <+: l.rest → delimited kind close (used ++ rest) = .ok { l with rest } := by
  rw [delimited] at h
  split at h
  · next content after hclosed =>
    cases h
    have hliteral := untilClosed_eq_some_iff.1 hclosed
    obtain ⟨used, hcs, hused⟩ := hliteral.exists_append
    refine ⟨used, hcs, fun rest hrest => ?_⟩
    rw [delimited, untilClosed_eq_some_iff.2 (hused rest fun hne => head?_ne_of_cut hrest (hliteral.head?_ne hne))]
  · cases h

theorem word_cut {c : Char} (hc : (isAlphabetic c || c == '_') = true) (cs : List Char) :
    ∃ used, cs = used ++ (c :: cs).dropWhile isWordPart ∧ ∀ rest, rest <+: (c :: cs).dropWhile isWordPart →
      (c :: (used ++ rest)).takeWhile isWordPart = (c :: cs).takeWhile isWordPart ∧
        (c :: (used ++ rest)).dropWhile isWordPart = rest := by
  have hpart := (startsWord hc).isWordPart
  rw [List.dropWhile_cons, if_pos hpart]
  refine ⟨cs.takeWhile isWordPart, List.takeWhile_append_dropWhile.symm, fun rest hrest => ?_⟩
  obtain ⟨htake, hdrop⟩ := span_cut isWordPart hrest
  simp only [List.takeWhile_cons, List.dropWhile_cons, if_pos hpart, htake, hdrop, and_self]

/-- Whether a blob starts with a character depends on what stands behind it only if that is an `X`. -/
def startsBlob (c : Char) (cs : List Char) : Bool :=
  (c == 'x' || c == 'X') && cs.head? == some '\''

/-- What a character starts where it starts neither a number nor a blob. -/
def readPlain (c : Char) (cs : List Char) : Except Token.Kind Lexeme :=
  if c == '\'' then delimited .string '\'' cs
  else if c == '"' then delimited .quotedIdentifier '"' cs
  else if c == '`' then delimited .quotedIdentifier '`' cs
  else if c == '[' then delimited .quotedIdentifier ']' cs
  else if isAlphabetic c || c == '_' then
    .ok { kind := .word, text := (c :: cs).takeWhile isWordPart, rest := (c :: cs).dropWhile isWordPart }
  else .ok (symbol c cs)

theorem read_eq (c : Char) (cs : List Char) :
    read c cs =
      if startsNumber c cs then .ok (number (c :: cs))
      else if startsBlob c cs then delimited .blob '\'' cs.tail
      else readPlain c cs :=
  rfl

theorem readPlain_cut {c : Char} {cs : List Char} {l : Lexeme} (h : readPlain c cs = .ok l) :
    ∃ used, cs = used ++ l.rest ∧ ∀ rest, rest <+: l.rest → readPlain c (used ++ rest) = .ok { l with rest } := by
  unfold readPlain at h ⊢
  split_ifs at h ⊢ with hstring hdouble hback hbracket hword
  · exact delimited_cut h
  · exact delimited_cut h
  · exact delimited_cut h
  · exact delimited_cut h
  · cases h
    obtain ⟨used, hcs, hcut⟩ := word_cut hword cs
    refine ⟨used, hcs, fun rest hrest => ?_⟩
    rw [(hcut rest hrest).1, (hcut rest hrest).2]
  · cases h
    obtain ⟨used, hcs, hcut⟩ := symbol_cut c cs
    exact ⟨used, hcs, fun rest hrest => congrArg _ (hcut rest hrest)⟩

/-- A token is read in the same way if the text breaks off anywhere behind it. -/
theorem read_cut {c : Char} {cs : List Char} {l : Lexeme} (h : read c cs = .ok l) :
    ∃ used, cs = used ++ l.rest ∧ ∀ rest, rest <+: l.rest → read c (used ++ rest) = .ok { l with rest } := by
  rw [read_eq] at h
  split_ifs at h with hnumber hblob
  · cases h
    obtain ⟨used, hcs, hcut⟩ := startsNumber_cut hnumber
    refine ⟨used, hcs, fun rest hrest => ?_⟩
    rw [read_eq, if_pos (hcut rest hrest).1, (hcut rest hrest).2]
  · obtain ⟨used, hcs, hcut⟩ := delimited_cut h
    obtain ⟨hx, hquote⟩ := Bool.and_eq_true_iff.1 hblob
    obtain ⟨ds, rfl⟩ := List.head?_eq_some_iff.1 (beq_iff_eq.1 hquote)
    refine ⟨'\'' :: used, congrArg _ hcs, fun rest hrest => ?_⟩
    have hnumber' : ¬startsNumber c ('\'' :: used ++ rest) = true := hnumber
    have hblob' : startsBlob c ('\'' :: used ++ rest) = true := hblob
    rw [read_eq, if_neg hnumber', if_pos hblob']
    exact hcut rest hrest
  · obtain ⟨used, hcs, hcut⟩ := readPlain_cut h
    refine ⟨used, hcs, fun rest hrest => ?_⟩
    have hprefix : used ++ rest <+: cs := by
      rw [hcs]
      exact (List.prefix_append_right_inj used).2 hrest
    -- what starts neither a number nor a blob does not start one if less stands behind it
    have hnumber' : ¬startsNumber c (used ++ rest) = true := by
      rw [startsNumber, Bool.not_eq_true, Bool.or_eq_false_iff, Bool.and_eq_false_imp] at hnumber ⊢
      exact ⟨hnumber.1, fun hc => startsWithDigit_of_cut hprefix (hnumber.2 hc)⟩
    have hblob' : ¬startsBlob c (used ++ rest) = true := by
      simp only [startsBlob, Bool.and_eq_true, beq_iff_eq, not_and] at hblob ⊢
      exact fun hx => head?_ne_of_cut hprefix (hblob hx)
    rw [read_eq, if_neg hnumber', if_neg hblob', hcut rest hrest]

end Lexeme

/-! ### Where tokens and errors are -/

theorem byteLength_cons_pos (c : Char) (cs : List Char) : 0 < byteLength (c :: cs) := by
  have hc := c.utf8Size_pos
  rw [byteLength_eq, String.utf8Len_cons]
  omega

theorem byteLength_rest_lt {c : Char} {cs : List Char} {l : Lexeme} (h : Lexeme.read c cs = .ok l) :
    byteLength l.rest < byteLength (c :: cs) := by
  obtain ⟨used, hcs, -⟩ := Lexeme.read_cut h
  have hpos := byteLength_cons_pos c used
  rw [hcs, ← List.cons_append, byteLength_append]
  omega

/-- Each token starts behind the one before it. -/
theorem pairwise_offset_lt {stop : Nat} {cs : List Char} {ts : List Token} (h : tokensFrom stop cs = .ok ts)
    (hstop : byteLength cs ≤ stop) : ts.Pairwise (·.offset < ·.offset) := by
  have hall : byteLength cs ≤ stop → ts.Pairwise (·.offset < ·.offset) ∧ ∀ t ∈ ts, stop - byteLength cs ≤ t.offset := by
    refine tokensFrom_induction (fun cs _ _ => ⟨.nil, nofun⟩) (fun cs c after l others hcons hread _ ih hstop => ?_) h
    have hle : byteLength (c :: after) ≤ byteLength cs := byteLength_le_of_suffix (hcons ▸ dropFiller_suffix cs)
    have hlt := byteLength_rest_lt hread
    obtain ⟨hpairwise, hothers⟩ := ih (by omega)
    refine ⟨List.pairwise_cons.2 ⟨fun t ht => ?_, hpairwise⟩, List.forall_mem_cons.2 ⟨?_, fun t ht => ?_⟩⟩
    · have hoffset := hothers t ht
      dsimp only
      omega
    · exact Nat.sub_le_sub_left hle stop
    · have hoffset := hothers t ht
      omega
  exact (hall hstop).1

/-- A token is there also if the text breaks off anywhere behind it. -/
theorem exists_token_cut {c : Char} {cs after : List Char} {l : Lexeme} (hcons : dropFiller cs = c :: after)
    (hread : Lexeme.read c after = .ok l) :
    ∃ filler used, cs = filler ++ c :: (used ++ l.rest) ∧ after = used ++ l.rest ∧ ∀ rest, rest <+: l.rest →
      dropFiller (filler ++ c :: (used ++ rest)) = c :: (used ++ rest) ∧
        Lexeme.read c (used ++ rest) = .ok { l with rest } := by
  obtain ⟨filler, hcs, hfiller⟩ := exists_filler_of_cons hcons
  obtain ⟨used, hafter, hcut⟩ := Lexeme.read_cut hread
  have hstart : StartsToken (c :: after) := hcons ▸ startsToken_dropFiller cs
  refine ⟨filler, used, by rw [hcs, ← hafter], hafter, fun rest hrest => ⟨?_, hcut rest hrest⟩⟩
  rw [hfiller]
  refine hstart.cut ?_
  rw [hafter]
  exact (List.prefix_append_right_inj used).2 hrest

/-- A text is taken apart in front of the place of a token as it is in the whole text, and so it is from there on. -/
theorem tokensFrom_split {stop : Nat} {cs : List Char} {ts : List Token} (h : tokensFrom stop cs = .ok ts) :
    ∀ i (hi : i < ts.length), ∃ front back, cs = front ++ back ∧ back ≠ [] ∧
      ts[i].offset = stop - byteLength back ∧ tokensFrom (stop - byteLength back) front = .ok (ts.take i) ∧
        tokensFrom stop back = .ok (ts.drop i) := by
  refine tokensFrom_induction (fun cs _ i hi => absurd hi (Nat.not_lt_zero i))
    (fun cs c after l others hcons hread hothers ih i hi => ?_) h
  cases i with
  | zero =>
    obtain ⟨filler, hcs, hfiller⟩ := exists_filler_of_cons hcons
    have hstart : StartsToken (c :: after) := hcons ▸ startsToken_dropFiller cs
    refine ⟨filler, c :: after, hcs, List.cons_ne_nil _ _, rfl, tokensFrom_nil (dropFiller_eq_nil hfiller) _, ?_⟩
    rw [tokensFrom_step hstart hread, hothers]
    rfl
  | succ i =>
    obtain ⟨front, back, hsplit, hback, hoffset, htake, hdrop⟩ := ih i (Nat.lt_of_succ_lt_succ hi)
    obtain ⟨filler, used, hcs, hafter, hcut⟩ := exists_token_cut hcons hread
    obtain ⟨hfront, hread'⟩ := hcut front (hsplit ▸ List.prefix_append front back)
    refine ⟨filler ++ c :: (used ++ front), back, ?_, hback, hoffset, ?_, hdrop⟩
    · rw [hcs, hsplit, List.append_assoc, List.cons_append, List.append_assoc]
    · -- the token stands as far from the end of the front as it does from the place of the other token
      have hplace : stop - byteLength back - byteLength (c :: (used ++ front)) = stop - byteLength (c :: after) := by
        rw [hafter, hsplit, Nat.sub_sub, Nat.add_comm, ← byteLength_append, List.cons_append, List.append_assoc]
      rw [tokensFrom_step hfront hread', htake, hplace]
      rfl

/-- From the place of a token on, the text is taken apart into this token and those after it. -/
theorem tokensFrom_drop {stop : Nat} {cs : List Char} {ts : List Token} (h : tokensFrom stop cs = .ok ts) :
    ∀ i (hi : i < ts.length), ∃ front back, cs = front ++ back ∧ back ≠ [] ∧
      ts[i].offset = stop - byteLength back ∧ tokensFrom stop back = .ok (ts.drop i) := by
  intro i hi
  obtain ⟨front, back, hsplit, hback, hoffset, -, hdrop⟩ := tokensFrom_split h i hi
  exact ⟨front, back, hsplit, hback, hoffset, hdrop⟩

/-- A literal that is never closed is found where it opens, and what is in front of it is taken apart. -/
theorem tokensFrom_error {stop : Nat} {cs : List Char} {e : Unterminated} (h : tokensFrom stop cs = .error e) :
    ∃ front back, cs = front ++ back ∧ e.offset = stop - byteLength back ∧ IsUnclosed e.kind back ∧
      ∃ ts, tokensFrom stop front = .ok ts := by
  induction cs using tokensFrom.induct stop with
  | case1 cs hnil =>
    rw [tokensFrom_nil hnil] at h
    cases h
  | case2 cs c after hcons kind hread =>
    -- the first token is the literal, so only what is dropped stands in front of it
    obtain ⟨filler, hcs, hrest⟩ := exists_filler_of_cons hcons
    have hfiller := dropFiller_eq_nil hrest
    rw [tokensFrom_eq, hcons] at h
    dsimp only at h
    rw [hread] at h
    cases h
    exact ⟨filler, c :: after, hcs, rfl, Lexeme.isUnclosed_of_read hread, [], tokensFrom_nil hfiller stop⟩
  | case3 cs c after hcons l hread ih =>
    rw [tokensFrom_step hcons hread] at h
    have hothers : tokensFrom stop l.rest = .error e := by
      cases hothers : tokensFrom stop l.rest with
      | error e' =>
        rw [hothers] at h
        cases h
        rfl
      | ok others =>
        rw [hothers] at h
        cases h
    -- the literal is behind the first token, which is read up to any place in front of the literal
    obtain ⟨front, back, hsplit, hoffset, hunclosed, ts, hts⟩ := ih hothers
    obtain ⟨filler, used, hcs, -, hcut⟩ := exists_token_cut hcons hread
    obtain ⟨hfront, hread'⟩ := hcut front (hsplit ▸ List.prefix_append front back)
    refine ⟨filler ++ c :: (used ++ front), back, ?_, hoffset, hunclosed, ?_⟩
    · rw [hcs, hsplit, List.append_assoc, List.cons_append, List.append_assoc]
    · rw [tokensFrom_step hfront hread', hts]
      exact ⟨_, rfl⟩

/-- What stands behind a place is shorter than the text by the bytes in front of it. -/
theorem eq_append_of_toList {text : String} {front back : List Char} (h : text.toList = front ++ back) :
    text = String.ofList front ++ String.ofList back ∧
      (String.ofList front).utf8ByteSize = text.utf8ByteSize - byteLength back ∧
        (String.ofList back).utf8ByteSize = byteLength back := by
  have hsize := byteLength_toList text
  rw [h, byteLength_append] at hsize
  refine ⟨by rw [← String.ofList_append, ← h, String.ofList_toList], ?_, ?_⟩
  · rw [← byteLength_toList, String.toList_ofList]
    omega
  · rw [← byteLength_toList, String.toList_ofList]

/-- In front of a token a text is taken apart into the tokens before it, and from its place on into it and those after
it, at places that are counted from there. -/
theorem tokenize_split {text : String} {ts : List Token} (h : tokenize text = .ok ts) {i : Nat} (hi : i < ts.length) :
    ∃ front back, text = front ++ back ∧ front.utf8ByteSize = ts[i].offset ∧ tokenize front = .ok (ts.take i) ∧
      ∃ us, tokenize back = .ok us ∧ ts.drop i = us.map (Token.shift ts[i].offset) := by
  obtain ⟨front, back, htext, -, hoffset, htake, hdrop⟩ := tokensFrom_split h i hi
  obtain ⟨hstring, hfront, hback⟩ := eq_append_of_toList htext
  refine ⟨String.ofList front, String.ofList back, hstring, hfront.trans hoffset.symm, ?_, ?_⟩
  · rw [tokenize, hfront, String.toList_ofList]
    exact htake
  · obtain ⟨us, hus⟩ := exists_tokensFrom hdrop (byteLength back)
    have hadd := tokensFrom_add hus le_rfl ts[i].offset
    have hle := congrArg String.utf8ByteSize hstring
    rw [String.utf8ByteSize_append, hback] at hle
    have hstop : byteLength back + ts[i].offset = text.utf8ByteSize := by omega
    rw [hstop, hdrop] at hadd
    refine ⟨us, ?_, Except.ok.inj hadd⟩
    rw [tokenize, hback, String.toList_ofList]
    exact hus

/-- A text with a literal that is never closed is taken apart in front of it. -/
theorem tokenize_unclosed {text : String} {e : Unterminated} (h : tokenize text = .error e) :
    ∃ front back, text = front ++ back ∧ front.utf8ByteSize = e.offset ∧ (∃ ts, tokenize front = .ok ts) ∧
      IsUnclosed e.kind back.toList := by
  obtain ⟨front, back, htext, hoffset, hunclosed, ts, hts⟩ := tokensFrom_error h
  obtain ⟨hstring, hfront, -⟩ := eq_append_of_toList htext
  refine ⟨String.ofList front, String.ofList back, hstring, hfront.trans hoffset.symm, ?_, ?_⟩
  · rw [tokenize, String.toList_ofList]
    exact exists_tokensFrom hts _
  · rw [String.toList_ofList]
    exact hunclosed

/-- **The places of tokens and of errors**, for every text. Tokens start at places inside the text that stand further and
further on; from the place of one on, the text is taken apart into it and those after it, at places that are counted from
there. An error is where a literal opens that is never closed, and the text in front of it is taken apart. -/
theorem tokenize_places (text : String) :
    (∀ ts, tokenize text = .ok ts →
      ts.Pairwise (·.offset < ·.offset) ∧
        ∀ i (hi : i < ts.length), ∃ front back, text = front ++ back ∧ back ≠ "" ∧
          front.utf8ByteSize = ts[i].offset ∧
          ∃ us, tokenize back = .ok us ∧ ts.drop i = us.map (Token.shift ts[i].offset)) ∧
    ∀ e, tokenize text = .error e → ∃ front back, text = front ++ back ∧ front.utf8ByteSize = e.offset ∧
      IsUnclosed e.kind back.toList ∧ ∃ ts, tokenize front = .ok ts := by
  -- what stands behind a place is shorter than the text by the bytes in front of it
  have hsplit {front back : List Char} (h : text.toList = front ++ back) :
      text = String.ofList front ++ String.ofList back ∧
        (String.ofList front).utf8ByteSize = text.utf8ByteSize - byteLength back := by
    have hsize := byteLength_toList text
    rw [h, byteLength_append] at hsize
    refine ⟨by rw [← String.ofList_append, ← h, String.ofList_toList], ?_⟩
    rw [← byteLength_toList, String.toList_ofList]
    omega
  refine ⟨fun ts h => ⟨pairwise_offset_lt h (byteLength_toList text).le, fun i hi => ?_⟩, fun e h => ?_⟩
  · obtain ⟨front, back, htext, hback, hoffset, hdrop⟩ := tokensFrom_drop h i hi
    obtain ⟨hstring, hsize⟩ := hsplit htext
    refine ⟨String.ofList front, String.ofList back, hstring, ?_, hsize.trans hoffset.symm, ?_⟩
    · rw [Ne, String.ofList_eq_empty_iff]
      exact hback
    · -- the tokens from the place on, counted from the end of the whole text and from that of what is left
      obtain ⟨us, hus⟩ := exists_tokensFrom hdrop (byteLength back)
      have hadd := tokensFrom_add hus le_rfl ts[i].offset
      have hle := byteLength_toList text
      rw [htext, byteLength_append] at hle
      have hstop : byteLength back + ts[i].offset = text.utf8ByteSize := by omega
      rw [hstop, hdrop] at hadd
      refine ⟨us, ?_, Except.ok.inj hadd⟩
      rw [tokenize, ← byteLength_toList, String.toList_ofList]
      exact hus
  · obtain ⟨front, back, htext, hoffset, hunclosed, ts, hts⟩ := tokensFrom_error h
    obtain ⟨hstring, hsize⟩ := hsplit htext
    refine ⟨String.ofList front, String.ofList back, hstring, hsize.trans hoffset.symm, ?_, ?_⟩
    · rw [String.toList_ofList]
      exact hunclosed
    · rw [tokenize, String.toList_ofList]
      exact exists_tokensFrom hts _

theorem tokenize_places_unclosed :
    tokenize "'é' || x'0A' /* ' */ 'b''" = .error ⟨.string, 22⟩ ∧
      ∃ front back, "'é' || x'0A' /* ' */ 'b''" = front ++ back ∧ front.utf8ByteSize = 22 ∧
        IsUnclosed .string back.toList ∧ ∃ ts, tokenize front = .ok ts := by
  have herror : tokenize "'é' || x'0A' /* ' */ 'b''" = .error ⟨.string, 22⟩ := by decide +kernel
  exact ⟨herror, (tokenize_places _).2 _ herror⟩

end SqlFormula
