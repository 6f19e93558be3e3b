import SqlFormula.Eval.PatternOperators
import SqlFormula.Proofs.Text.Letter
import SqlFormula.Proofs.Text.Parts

/-!
# The terms that `MATCH` finds

The query of `MATCH` is cut at blanks into terms, and the text into words, at every character that is no letter and no
number. A term is found if it is a word up to case. So the parts of a text between blanks are found in it if they are made
of letters and numbers; another character cuts the text, but not the query.

## Main definitions

- `IsTermOf`, `IsWordOf` — the terms of a query and the words of a text
- `OccursIn` — a term that is a word of a text up to case

## Main statements

- `matchesTerms_iff` — which queries match a text
- `isWordOf_of_isTermOf` — a term of letters and numbers is a word
- `patternMatch_match_chosen` — a query of terms that are chosen from the text itself
-/

namespace SqlFormula

open Text

/-- A term of a query: a part of it between blanks. -/
def IsTermOf (term query : String) : Prop :=
  IsPartBetween isBlank term.toList query.toList

/-- A word of a text: a part of it between characters that are no letters and no numbers. -/
def IsWordOf (word text : String) : Prop :=
  IsPartBetween (fun c => !isAlphanumeric c) word.toList text.toList

/-- A term is a word of a text, where case is of no account. -/
def OccursIn (term text : String) : Prop :=
  ∃ word, IsWordOf word text ∧ lower term = lower word

variable {text query term : String} {terms : List String}

theorem mem_wordsOf_iff {lowered : String} :
    lowered ∈ wordsOf text ↔ ∃ word, IsWordOf word text ∧ lower word = lowered := by
  simp only [wordsOf, List.mem_map, mem_partsBetween_iff, IsWordOf]

/-- A query matches a text if it has terms and all of them occur in the text. -/
theorem matchesTerms_iff :
    matchesTerms text query = true ↔
      (∃ term, IsTermOf term query) ∧ ∀ term, IsTermOf term query → OccursIn term text := by
  have hterm (term : String) : term ∈ words query ↔ IsTermOf term query := mem_partsBetween_iff
  have hfound (term : String) : lower term ∈ wordsOf text ↔ OccursIn term text := by
    simp only [mem_wordsOf_iff, OccursIn, eq_comm]
  rw [matchesTerms, Bool.and_eq_true, List.all_eq_true]
  simp only [Bool.not_eq_true', List.isEmpty_eq_false_iff_exists_mem, List.contains_iff_mem, hterm, hfound]

/-! ### Terms that come from the text -/

/-- A term of letters and numbers is a word: what stands around it are blanks, which are neither. -/
theorem isWordOf_of_isTermOf (h : IsTermOf term text) (hletters : ∀ c ∈ term.toList, isAlphanumeric c) :
    IsWordOf term text := by
  obtain ⟨before, after, heq, hne, -, hbefore, hafter⟩ := h
  have hblank (c : Char) (hc : isBlank c) : (!isAlphanumeric c) = true := by
    rw [not_isAlphanumeric_of_isBlank hc]
    rfl
  have hword (c : Char) (hc : c ∈ term.toList) : (!isAlphanumeric c) = false := by
    rw [hletters c hc]
    rfl
  exact ⟨before, after, heq, hne, hword, fun c hc => hblank c (hbefore c hc), fun c hc => hblank c (hafter c hc)⟩

theorem occursIn_of_isTermOf (h : IsTermOf term text) (hletters : ∀ c ∈ term.toList, isAlphanumeric c) :
    OccursIn term text :=
  ⟨term, isWordOf_of_isTermOf h hletters, rfl⟩

/-- The terms of a query that is made of terms with blanks between them. -/
theorem isTermOf_intercalate_iff (hterms : ∀ term ∈ terms, IsTermOf term text) :
    IsTermOf term (" ".intercalate terms) ↔ term ∈ terms := by
  have hparts : ∀ part ∈ terms.map String.toList, part ≠ [] ∧ ∀ c ∈ part, isBlank c = false := by
    intro part hpart
    obtain ⟨term, hmem, rfl⟩ := List.mem_map.1 hpart
    exact ⟨(hterms term hmem).ne_nil, (hterms term hmem).not_separator⟩
  rw [IsTermOf, String.toList_intercalate]
  show IsPartBetween isBlank term.toList ([' '].intercalate _) ↔ _
  rw [isPartBetween_intercalate_iff (by decide) hparts]
  exact List.mem_map_of_injective fun _ _ => String.toList_injective

theorem patternMatch_match {options : Options} (hlength : query.length ≤ options.maxPatternLength) :
    patternMatch options .match text query = .ok (matchesTerms text query) := by
  rw [← String.length_toList] at hlength
  rw [patternMatch, if_neg (Nat.not_lt.2 hlength)]

theorem patternMatch_tooLong {options : Options} (hlength : options.maxPatternLength < query.length)
    (text : String) :
    patternMatch options .match text query =
      .error (.invalidPattern (String.ofList (query.toList.take shownLength)) (.tooLong options.maxPatternLength)) := by
  rw [← String.length_toList] at hlength
  rw [patternMatch, if_pos hlength]

/-- **A query of terms that are chosen from the text itself**, in any order and repeated at will, matches the text exactly
if each term is a word of the text up to case, which a term of letters and numbers is. So a text of letters, numbers and
blanks matches itself unless it is blank. A query that is too long is refused. -/
theorem patternMatch_match_chosen (options : Options) (text : String) :
    (∀ query : String, options.maxPatternLength < query.length →
        patternMatch options .match text query =
          .error (.invalidPattern (String.ofList (query.toList.take shownLength)) (.tooLong options.maxPatternLength))) ∧
      (∀ terms : List String, terms ≠ [] → (∀ term ∈ terms, IsTermOf term text) →
        (" ".intercalate terms).length ≤ options.maxPatternLength →
          ∃ found, patternMatch options .match text (" ".intercalate terms) = .ok found ∧
            (found = true ↔ ∀ term ∈ terms, OccursIn term text) ∧
            ((∀ term ∈ terms, ∀ c ∈ term.toList, isAlphanumeric c) → found = true)) ∧
      ((∃ c ∈ text.toList, isBlank c = false) → (∀ c ∈ text.toList, isBlank c ∨ isAlphanumeric c) →
        text.length ≤ options.maxPatternLength → patternMatch options .match text text = .ok true) := by
  refine ⟨fun query hlength => patternMatch_tooLong hlength text, fun terms hne hterms hlength => ?_,
    fun ⟨c, hmem, hc⟩ hchars hlength => ?_⟩
  · have hmatched : matchesTerms text (" ".intercalate terms) = true ↔ ∀ term ∈ terms, OccursIn term text := by
      rw [matchesTerms_iff]
      simp only [isTermOf_intercalate_iff hterms]
      exact and_iff_right (List.exists_mem_of_ne_nil _ hne)
    exact ⟨_, patternMatch_match hlength, hmatched, fun hletters =>
      hmatched.2 fun term hmem => occursIn_of_isTermOf (hterms term hmem) (hletters term hmem)⟩
  · have hletters (term : String) (hterm : IsTermOf term text) : ∀ d ∈ term.toList, isAlphanumeric d := by
      intro d hd
      refine (hchars d (hterm.subset hd)).resolve_left ?_
      rw [hterm.not_separator d hd]
      exact Bool.false_ne_true
    have hmatched : matchesTerms text text = true :=
      matchesTerms_iff.2 ⟨exists_isPartBetween hmem hc, fun term hterm =>
        occursIn_of_isTermOf hterm (hletters term hterm)⟩
    rw [patternMatch_match hlength, hmatched]

/-- A text with several blanks, with words that are joined by a hyphen, and with a comma at the end of a word. -/
def invitation : String :=
  "Room 42\ton the\n well-lit floor, at  7PM"

/-- Of two terms that are made of a text, the one with a hyphen is no word of it. -/
theorem patternMatch_match_invitation :
    (∀ term ∈ ["7PM", "Room", "the", "Room"], IsTermOf term invitation) ∧
      patternMatch .default .match invitation (" ".intercalate ["7PM", "Room", "the", "Room"]) = .ok true ∧
      (∀ term ∈ ["7PM", "well-lit"], IsTermOf term invitation) ∧
      patternMatch .default .match invitation (" ".intercalate ["7PM", "well-lit"]) = .ok false ∧
      patternMatch .default .match "on the\tfloor" "on the\tfloor" = .ok true := by
  have hterm (term : String) (h : term ∈ words invitation) : IsTermOf term invitation := mem_partsBetween_iff.1 h
  have hterms : ∀ term ∈ ["7PM", "Room", "the", "Room"], IsTermOf term invitation := by
    simp only [List.forall_mem_cons]
    exact ⟨hterm _ (by decide), hterm _ (by decide), hterm _ (by decide), hterm _ (by decide), nofun⟩
  have hjoined : ∀ term ∈ ["7PM", "well-lit"], IsTermOf term invitation := by
    simp only [List.forall_mem_cons]
    exact ⟨hterm _ (by decide), hterm _ (by decide), nofun⟩
  have hnot : ¬OccursIn "well-lit" invitation := by
    rintro ⟨word, hword, hlower⟩
    have hmem : lower "well-lit" ∈ wordsOf invitation := mem_wordsOf_iff.2 ⟨word, hword, hlower.symm⟩
    revert hmem
    with_unfolding_all decide
  have hplain : (["7PM", "Room", "the", "Room"].all fun term => term.toList.all isAlphanumeric) = true := by rfl
  have hfloor : ("on the\tfloor".toList.all fun c => isBlank c || isAlphanumeric c) = true := by rfl
  simp only [List.all_eq_true, Bool.or_eq_true] at hplain hfloor
  obtain ⟨-, hchosen, -⟩ := patternMatch_match_chosen .default invitation
  obtain ⟨found, hfound, -, hletters⟩ := hchosen _ (List.cons_ne_nil _ _) hterms (by decide)
  obtain ⟨found', hfound', hoccur, -⟩ := hchosen _ (List.cons_ne_nil _ _) hjoined (by decide)
  obtain ⟨-, -, hself⟩ := patternMatch_match_chosen .default "on the\tfloor"
  refine ⟨hterms, ?_, hjoined, ?_, hself ⟨'o', by decide, by decide⟩ hfloor (by decide)⟩
  · rw [hfound, hletters hplain]
  · have hfalse : found' = false := by
      refine Bool.eq_false_iff.2 fun h => hnot ?_
      exact hoccur.1 h _ (List.mem_cons_of_mem _ List.mem_cons_self)
    rw [hfound', hfalse]

/-- A text of letters around a hyphen is its only term, but does not match itself. -/
theorem patternMatch_match_hyphen :
    ¬∀ (options : Options) (text : String) (terms : List String), terms ≠ [] →
      (∀ term ∈ terms, IsTermOf term text ∧ ∃ c ∈ term.toList, isAlphanumeric c) →
      (" ".intercalate terms).length ≤ options.maxPatternLength →
      patternMatch options .match text (" ".intercalate terms) = .ok true := by
  intro hall
  have hterm : IsTermOf "e-mail" "e-mail" := mem_partsBetween_iff.1 (by decide)
  have hmatched := hall .default "e-mail" ["e-mail"] (by decide)
    (List.forall_mem_singleton.2 ⟨hterm, 'e', by decide, by decide⟩) (by decide)
  have hjoined : " ".intercalate ["e-mail"] = "e-mail" := rfl
  rw [hjoined] at hmatched
  have hcode : (patternMatch .default .match "e-mail" "e-mail").toOption = some false := by with_unfolding_all decide
  rw [hmatched] at hcode
  cases hcode

end SqlFormula
