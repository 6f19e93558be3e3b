import Mathlib
import SqlFormula.Proofs.Regex.Reading

/-!
# What `LIKE` and `GLOB` patterns accept

The two notations are read as patterns of wildcards. The regular expressions that they are brought to accept the same
texts.

## Main definitions

- `likeWildcards` — the wildcards of a `LIKE` pattern
- `globWildcards` — the wildcards of a `GLOB` pattern

## Main statements

- `patternMatch_like` — `LIKE` accepts exactly the texts that the wildcards accept
- `patternMatch_glob` — so does `GLOB`, if no class has two hyphens one after the other
-/

namespace SqlFormula

open Wildcard

/-! ### `LIKE` -/

/-- What a character of a `LIKE` pattern stands for. -/
def likeWildcard (c : Char) : Wildcard :=
  if c = '%' then .run else if c = '_' then .any else .only c

def likeWildcards (pattern : List Char) : List Wildcard :=
  pattern.map likeWildcard

theorem likeRegex_eq (pattern : List Char) :
    likeRegex pattern = anchored ((likeWildcards pattern).flatMap written) := by
  have hpart (c : Char) : likePart c = (likeWildcard c).written := by
    rw [likePart, likeWildcard]
    split
    · rfl
    · split <;> rfl
  rw [likeRegex, likeWildcards, List.flatMap_map]
  congr
  funext c
  exact hpart c

/-- **`LIKE`**: with case, it never fails on a pattern within the limits, and holds exactly if the whole text is accepted,
where `%` is any text, `_` any character, and any other character itself. -/
theorem patternMatch_like {options : Options} {text pattern : String} (hcase : options.likeCaseSensitive = true)
    (hlength : pattern.toList.length ≤ options.maxPatternLength)
    (hfits : ∀ p, Regex.Pattern.read? false (likeRegex pattern.toList) = some p →
      p.fits options.patternSizeLimit = true) :
    patternMatch options .like text pattern = .ok (accepts (likeWildcards pattern.toList) text.toList) := by
  have hreadable : ∀ w ∈ likeWildcards pattern.toList, w.Readable := by
    intro w hw
    obtain ⟨c, -, rfl⟩ := List.mem_map.1 hw
    rw [likeWildcard]
    split
    · trivial
    · split <;> trivial
  rw [likeRegex_eq] at hfits
  rw [patternMatch, if_neg (Nat.not_lt.2 hlength), hcase, likeRegex_eq, Bool.not_true,
    Regex.regexMatch_anchored hreadable hfits]

/-- A path with characters that have meanings of their own in regular expressions, and with a line end. -/
theorem patternMatch_like_path :
    patternMatch .default .like "C:\\a+\nb.txt" "_:\\%+%b.t_t" = .ok true := by
  have hfits : (Regex.Pattern.read? false (likeRegex "_:\\%+%b.t_t".toList)).all
      (Regex.Pattern.fits Options.default.patternSizeLimit) = true := by
    with_unfolding_all decide
  refine (patternMatch_like rfl (by decide) fun p hp => ?_).trans ?_
  · rwa [hp] at hfits
  · with_unfolding_all decide

/-! ### `GLOB` -/

/-- The members of a class up to its closing bracket, and what comes after that. -/
def untilBracket? : List Char → Option (List Char × List Char)
  | [] => none
  | ']' :: after => some ([], after)
  | c :: cs => (untilBracket? cs).map fun (members, after) => (c :: members, after)

/-- A class after its opening bracket, and what comes after it: whether it is denied, and its members, of which the first
may be a closing bracket. -/
def classAhead? : List Char → Option (Wildcard × List Char)
  | '^' :: c :: cs => (untilBracket? cs).map fun (members, after) => (.oneOf true (c :: members), after)
  | c :: cs => (untilBracket? cs).map fun (members, after) => (.oneOf false (c :: members), after)
  | [] => none

theorem length_untilBracket?_lt {cs members after : List Char} (h : untilBracket? cs = some (members, after)) :
    after.length < cs.length := by
  induction cs using untilBracket?.induct generalizing members with
  | case1 => cases h
  | case2 after =>
    cases h
    exact Nat.lt_succ_self _
  | case3 c cs hc ih =>
    rw [untilBracket?.eq_3 _ _ hc, Option.map_eq_some_iff] at h
    obtain ⟨⟨members, _⟩, h, heq⟩ := h
    cases heq
    exact Nat.lt_succ_of_lt (ih h)

/-- A class has a first member, which is not the sign that denies it. -/
theorem exists_of_classAhead? {cs after : List Char} {w : Wildcard} (h : classAhead? cs = some (w, after)) :
    ∃ negated first members, w = .oneOf negated (first :: members) ∧ (negated = false → first ≠ '^') ∧
      after.length < cs.length := by
  rw [classAhead?.eq_def] at h
  split at h
  · next c cs =>
    obtain ⟨⟨members, _⟩, h, heq⟩ := Option.map_eq_some_iff.1 h
    cases heq
    have hlength := length_untilBracket?_lt h
    exact ⟨true, c, members, rfl, nofun, by simp only [List.length_cons]; omega⟩
  · next c cs hmark =>
    obtain ⟨⟨members, _⟩, h, heq⟩ := Option.map_eq_some_iff.1 h
    cases heq
    have hlength := length_untilBracket?_lt h
    refine ⟨false, c, members, rfl, ?_, by simp only [List.length_cons]; omega⟩
    rintro - rfl
    cases cs with
    | nil => cases h
    | cons d cs => exact hmark d cs rfl rfl
  · cases h

theorem length_classAhead?_lt {cs after : List Char} {w : Wildcard} (h : classAhead? cs = some (w, after)) :
    after.length < cs.length := by
  obtain ⟨_, _, _, -, -, hlength⟩ := exists_of_classAhead? h
  exact hlength

/-- The wildcards of a `GLOB` pattern: `*` is any text, `?` any character, and brackets are for classes. A bracket that is
never closed is itself, as is any other character. -/
def globWildcards : List Char → List Wildcard
  | [] => []
  | '*' :: cs => .run :: globWildcards cs
  | '?' :: cs => .any :: globWildcards cs
  | '[' :: cs =>
    match _h : classAhead? cs with
    | some (w, after) => w :: globWildcards after
    | none => .only '[' :: globWildcards cs
  | c :: cs => .only c :: globWildcards cs
termination_by cs => cs.length
decreasing_by
  all_goals simp only [List.length_cons]
  all_goals try omega
  exact Nat.lt_succ_of_lt (length_classAhead?_lt _h)

theorem takeWhile_cons_of_ne {c : Char} (hc : c ≠ ']') (cs : List Char) :
    (c :: cs).takeWhile (· != ']') = c :: cs.takeWhile (· != ']') :=
  List.takeWhile_cons_of_pos (by simpa using hc)

theorem untilBracket?_eq (cs : List Char) :
    untilBracket? cs =
      match cs.drop (cs.takeWhile (· != ']')).length with
      | _ :: after => some (cs.takeWhile (· != ']'), after)
      | [] => none := by
  induction cs using untilBracket?.induct with
  | case1 => rfl
  | case2 after => rfl
  | case3 c cs hc ih =>
    rw [untilBracket?.eq_3 _ _ hc, ih, takeWhile_cons_of_ne hc, List.length_cons, List.drop_succ_cons]
    split <;> rfl

theorem classMembers?_cons (c : Char) (cs : List Char) :
    classMembers? (c :: cs) = (untilBracket? cs).map fun (members, after) => (c :: members, after) := by
  rw [untilBracket?_eq]
  by_cases hc : c = ']'
  · subst hc
    show (match cs.drop (cs.takeWhile (· != ']')).length with
      | _ :: after => some ([']'] ++ cs.takeWhile (· != ']'), after)
      | [] => none) = _
    split <;> rfl
  · have hhead : ¬(c :: cs).head? = some ']' := fun h => hc (Option.some.inj h)
    rw [classMembers?, if_neg hhead]
    show (match (c :: cs).drop ((c :: cs).takeWhile (· != ']')).length with
      | _ :: after => some ((c :: cs).takeWhile (· != ']'), after)
      | [] => none) = _
    rw [takeWhile_cons_of_ne hc, List.length_cons, List.drop_succ_cons]
    split <;> rfl

/-- A class becomes a class of regular expressions, member by member. -/
theorem globClass?_eq (cs : List Char) :
    globClass? cs = (classAhead? cs).map fun (w, after) => (w.written, after) := by
  cases cs with
  | nil => rfl
  | cons c cs =>
    by_cases hmark : c = '^'
    · subst hmark
      cases cs with
      | nil => rfl
      | cons c cs =>
        show (classMembers? (c :: cs)).map _ = ((untilBracket? cs).map _).map _
        rw [classMembers?_cons]
        cases untilBracket? cs <;> rfl
    · have hhead : ¬(c :: cs).head? = some '^' := fun h => hmark (Option.some.inj h)
      rw [globClass?, if_neg hhead, classAhead?.eq_2 _ _ fun _ _ heq _ => hmark heq]
      show (classMembers? (c :: cs)).map _ = ((untilBracket? cs).map _).map _
      rw [classMembers?_cons]
      cases untilBracket? cs <;> rfl

theorem globParts_eq (cs : List Char) : globParts cs = (globWildcards cs).flatMap written := by
  fun_induction globWildcards cs with
  | case1 => rw [globParts, List.flatMap_nil]
  | case2 cs ih => rw [globParts, ih]; rfl
  | case3 cs ih => rw [globParts, ih]; rfl
  | case4 cs w after h ih =>
    -- a class that is closed
    rw [globParts]
    split
    · next part after' hpart =>
      rw [globClass?_eq, h] at hpart
      cases hpart
      rw [ih, List.flatMap_cons]
    · next hpart =>
      rw [globClass?_eq, h] at hpart
      cases hpart
  | case5 cs h ih =>
    -- a bracket that is never closed stands for itself
    rw [globParts]
    split
    · next part after' hpart =>
      rw [globClass?_eq, h] at hpart
      cases hpart
    · rw [ih]
      rfl
  | case6 c cs hstar hany hopen ih =>
    rw [globParts, ih, List.flatMap_cons, written]
    all_goals assumption

theorem globRegex_eq (pattern : List Char) :
    globRegex pattern = anchored ((globWildcards pattern).flatMap written) := by
  rw [globRegex, globParts_eq]

theorem readable_globWildcards {cs : List Char} (hranges : ∀ w ∈ globWildcards cs, ascends w.members = true)
    (hhyphens : ∀ w ∈ globWildcards cs, ¬['-', '-'] <:+: w.members) : ∀ w ∈ globWildcards cs, w.Readable := by
  fun_induction globWildcards cs with
  | case1 => exact List.forall_mem_nil _
  | case2 cs ih | case3 cs ih | case5 cs h ih | case6 c cs _ _ _ ih =>
    exact List.forall_mem_cons.2 ⟨trivial, ih (List.forall_mem_cons.1 hranges).2 (List.forall_mem_cons.1 hhyphens).2⟩
  | case4 cs w after h ih =>
    obtain ⟨hrange, hrest⟩ := List.forall_mem_cons.1 hranges
    obtain ⟨hhyphen, hrest'⟩ := List.forall_mem_cons.1 hhyphens
    obtain ⟨negated, first, members, rfl, hmark, -⟩ := exists_of_classAhead? h
    refine List.forall_mem_cons.2 ⟨⟨List.cons_ne_nil _ _, fun hn => ?_, hrange, hhyphen⟩, ih hrest hrest'⟩
    exact fun hhead => hmark hn (Option.some.inj hhead)

/-- **`GLOB`**: it never fails on a pattern within the limits whose ranges have their ends in order, and holds exactly if
the whole text is accepted, where `*` is any text, `?` any character, and a class any of its members or any other
character. No class may have two hyphens one after the other. -/
theorem patternMatch_glob {options : Options} {text pattern : String}
    (hlength : pattern.toList.length ≤ options.maxPatternLength)
    (hfits : ∀ p, Regex.Pattern.read? false (globRegex pattern.toList) = some p →
      p.fits options.patternSizeLimit = true)
    (hranges : ∀ w ∈ globWildcards pattern.toList, ascends w.members = true)
    (hhyphens : ∀ w ∈ globWildcards pattern.toList, ¬['-', '-'] <:+: w.members) :
    patternMatch options .glob text pattern = .ok (accepts (globWildcards pattern.toList) text.toList) := by
  rw [globRegex_eq] at hfits
  rw [patternMatch, if_neg (Nat.not_lt.2 hlength), globRegex_eq,
    Regex.regexMatch_anchored (readable_globWildcards hranges hhyphens) hfits]

/-- A pattern with a range, a denied class with brackets and a hyphen at its end, and a bracket that is not closed. -/
theorem patternMatch_glob_version :
    patternMatch .default .glob "v7\n.[x" "[a-z][0-9][^][.-]?[[]*" = .ok true := by
  have hfits : (Regex.Pattern.read? false (globRegex "[a-z][0-9][^][.-]?[[]*".toList)).all
      (Regex.Pattern.fits Options.default.patternSizeLimit) = true := by
    with_unfolding_all decide
  refine (patternMatch_glob (by decide) (fun p hp => ?_) ?_ ?_).trans ?_
  · rwa [hp] at hfits
  · with_unfolding_all decide
  · with_unfolding_all decide
  · with_unfolding_all decide

/-- With two hyphens one after the other, the class of `+`, `,` and `-` has no comma. -/
theorem patternMatch_glob_hyphens :
    ¬∀ (options : Options) (text pattern : String), pattern.toList.length ≤ options.maxPatternLength →
      (∀ p, Regex.Pattern.read? false (globRegex pattern.toList) = some p → p.fits options.patternSizeLimit = true) →
      (∀ w ∈ globWildcards pattern.toList, ascends w.members = true) →
      patternMatch options .glob text pattern = .ok (accepts (globWildcards pattern.toList) text.toList) := by
  intro hall
  have hfits : (Regex.Pattern.read? false (globRegex "[+--]".toList)).all
      (Regex.Pattern.fits Options.default.patternSizeLimit) = true := by
    with_unfolding_all decide
  have hmatched := hall .default "," "[+--]" (by decide) (fun p hp => by rwa [hp] at hfits)
    (by with_unfolding_all decide)
  have haccepts : accepts (globWildcards "[+--]".toList) ",".toList = true := by with_unfolding_all decide
  have hcode : (patternMatch .default .glob "," "[+--]").toOption = some false := by with_unfolding_all decide
  rw [hmatched, haccepts] at hcode
  cases hcode

end SqlFormula
