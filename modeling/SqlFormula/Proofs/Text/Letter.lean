import Mathlib
import SqlFormula.Text.Blank
import SqlFormula.Text.Letter

/-!
# Blanks and letters

Blanks at the ends of a text are trimmed. The tables of letters and numbers hold no blank, so a blank always ends a word.

## Main definitions

- `avoids` — whether the ranges of a table hold none of some numbers

## Main statements

- `exists_trimBlanks` — only blanks are trimmed
- `trimBlanks_between` — what stands between blanks, and has none at its own ends, is what remains
- `searchRanges_holds` — the search finds ranges that hold the number only
- `not_isAlphanumeric_of_isBlank` — a blank is neither a letter nor a number
-/

namespace SqlFormula.Text

/-! ### Blanks at the ends -/

section

variable {p : Char → Bool} {cs : List Char}

theorem dropWhile_eq_self (h : ∀ c ∈ cs.head?, p c = false) : cs.dropWhile p = cs := by
  cases cs with
  | nil => rfl
  | cons c cs => exact List.dropWhile_cons_of_neg (by rw [h c rfl]; decide)

theorem dropEndWhile_eq_self (h : ∀ c ∈ cs.getLast?, p c = false) : dropEndWhile p cs = cs := by
  rw [dropEndWhile, dropWhile_eq_self, List.reverse_reverse]
  intro c hc
  rw [List.head?_reverse] at hc
  exact h c hc

theorem dropEndWhile_append {after : List Char} (h : ∀ c ∈ after, p c) :
    dropEndWhile p (cs ++ after) = dropEndWhile p cs := by
  rw [dropEndWhile, List.reverse_append, List.dropWhile_append_of_pos, dropEndWhile]
  intro c hc
  exact h c (List.mem_reverse.1 hc)

/-- Only such characters are dropped from the end. -/
theorem exists_dropEndWhile (p : Char → Bool) (cs : List Char) :
    ∃ after, cs = dropEndWhile p cs ++ after ∧ ∀ c ∈ after, p c := by
  refine ⟨(cs.reverse.takeWhile p).reverse, ?_, ?_⟩
  · rw [dropEndWhile, ← List.reverse_append, List.takeWhile_append_dropWhile, List.reverse_reverse]
  · intro c hc
    exact List.mem_takeWhile_imp (List.mem_reverse.1 hc)

end

section

variable {cs : List Char}

/-- A text without blanks at its ends is trimmed to itself. -/
theorem trimBlanks_eq_self (hfirst : ∀ c ∈ cs.head?, isBlank c = false)
    (hlast : ∀ c ∈ cs.getLast?, isBlank c = false) : trimBlanks cs = cs := by
  rw [trimBlanks, dropBlanks, dropWhile_eq_self hfirst, dropEndWhile_eq_self hlast]

theorem trimBlanks_between {before after : List Char} (hbefore : ∀ c ∈ before, isBlank c)
    (hafter : ∀ c ∈ after, isBlank c) (hne : cs ≠ []) (hfirst : ∀ c ∈ cs.head?, isBlank c = false)
    (hlast : ∀ c ∈ cs.getLast?, isBlank c = false) : trimBlanks (before ++ cs ++ after) = cs := by
  have hhead : ∀ c ∈ (cs ++ after).head?, isBlank c = false := by
    rw [List.head?_append_of_ne_nil _ hne]
    exact hfirst
  rw [List.append_assoc, trimBlanks, dropBlanks, List.dropWhile_append_of_pos hbefore, dropWhile_eq_self hhead,
    dropEndWhile_append hafter, dropEndWhile_eq_self hlast]

/-- Only blanks are trimmed. -/
theorem exists_trimBlanks (cs : List Char) : ∃ before after, cs = before ++ trimBlanks cs ++ after ∧
    (∀ c ∈ before, isBlank c) ∧ ∀ c ∈ after, isBlank c := by
  obtain ⟨after, hafter, hblank⟩ := exists_dropEndWhile isBlank (dropBlanks cs)
  refine ⟨cs.takeWhile isBlank, after, ?_, fun c hc => List.mem_takeWhile_imp hc, hblank⟩
  rw [List.append_assoc, trimBlanks, ← hafter, dropBlanks, List.takeWhile_append_dropWhile]

end

/-! ### Letters are no blanks -/

/-- A range that the search finds is one of those searched, and holds the number. -/
theorem searchRanges_holds {range : Nat → Nat × Nat} {n low high i : Nat}
    (h : searchRanges range n low high = some i) : i < high ∧ (range i).1 ≤ n ∧ n ≤ (range i).2 := by
  fun_induction searchRanges range n low high with
  | case1 low high hlt middle first last hr _ ih =>
    obtain ⟨hi, hrange⟩ := ih h
    exact ⟨by omega, hrange⟩
  | case2 low high hlt middle first last hr _ _ ih => exact ih h
  | case3 low high hlt middle first last hr hfirst hlast =>
    obtain rfl := Option.some.inj h
    refine ⟨by omega, ?_⟩
    rw [hr]
    exact ⟨Nat.not_lt.1 hfirst, Nat.not_lt.1 hlast⟩
  | case4 => cases h

/-- Whether the ranges of a table with some characters as its text hold none of some numbers. -/
def avoids (ns : List Nat) (cs : List Char) : Bool :=
  ((splitAt ' ' (cs.map fun c => if c = '\n' then ' ' else c)).filter (!·.isEmpty)).all fun word =>
    let (first, last) := rangeOfText word
    ns.all fun n => decide (n < first) || decide (last < n)

theorem not_contains_of_avoids {cs : List Char} {ns : List Nat} (h : avoids ns cs = true) {c : Char}
    (hc : c.toNat ∈ ns) : (RangeTable.ofText (String.ofList cs)).contains c = false := by
  -- the search would have ended with a range that holds the number
  refine Bool.eq_false_iff.2 fun hcontains => ?_
  obtain ⟨i, hi⟩ := Option.isSome_iff_exists.1 hcontains
  obtain ⟨hlt, hfirst, hlast⟩ := searchRanges_holds hi
  have hwords : tableWords (String.ofList cs) =
      (splitAt ' ' (cs.map fun c => if c = '\n' then ' ' else c)).filter (!·.isEmpty) := by
    rw [tableWords, String.toList_ofList]
  obtain ⟨word, hmem, hrange⟩ : ∃ word ∈ tableWords (String.ofList cs),
      (RangeTable.ofText (String.ofList cs)).ranges.getD i (0, 0) = rangeOfText word := by
    simp only [RangeTable.ofText, List.size_toArray, List.length_map] at hlt
    refine ⟨(tableWords (String.ofList cs))[i], List.getElem_mem hlt, ?_⟩
    simp [RangeTable.ofText, hlt]
  rw [hrange] at hfirst hlast
  rw [hwords] at hmem
  have hword : (ns.all fun n => decide (n < (rangeOfText word).1) || decide ((rangeOfText word).2 < n)) = true :=
    List.all_eq_true.1 h word hmem
  have houtside := List.all_eq_true.1 hword _ hc
  simp only [Bool.or_eq_true, decide_eq_true_eq] at houtside
  omega

/-- The blanks above ASCII. -/
def widerBlanks : List Nat :=
  [0x85, 0xA0, 0x1680, 0x2000, 0x2001, 0x2002, 0x2003, 0x2004, 0x2005, 0x2006, 0x2007, 0x2008, 0x2009, 0x200A,
    0x2028, 0x2029, 0x202F, 0x205F, 0x3000]

theorem toNat_mem_widerBlanks {c : Char} (h : isBlank c) (hwide : ¬c.val < 128) : c.toNat ∈ widerBlanks := by
  have hge : 128 ≤ c.toNat := by
    simpa [UInt32.lt_iff_toNat_lt] using hwide
  simp only [isBlank, Bool.or_eq_true, Bool.and_eq_true, decide_eq_true_eq, beq_iff_eq] at h
  simp only [widerBlanks, List.mem_cons, List.not_mem_nil]
  omega

set_option maxRecDepth 100000 in
theorem alphabeticTable_avoids {c : Char} (hc : c.toNat ∈ widerBlanks) : alphabeticTable.contains c = false :=
  not_contains_of_avoids (by decide +kernel) hc

set_option maxRecDepth 100000 in
theorem numberTable_avoids {c : Char} (hc : c.toNat ∈ widerBlanks) : numberTable.contains c = false :=
  not_contains_of_avoids (by decide +kernel) hc

/-- **A blank is neither a letter nor a number.** -/
theorem not_isAlphanumeric_of_isBlank {c : Char} (h : isBlank c) : isAlphanumeric c = false := by
  by_cases hwide : c.val < 128
  · have hlt : c.toNat < 128 := by simpa [UInt32.lt_iff_toNat_lt] using hwide
    simp only [isBlank, Bool.or_eq_true, Bool.and_eq_true, decide_eq_true_eq, beq_iff_eq] at h
    have hle : c.val.toNat ≤ 32 := by
      rw [Char.toNat_val]
      omega
    have halpha : c.isAlpha = false := by
      refine Bool.eq_false_iff.2 fun h => ?_
      simp only [Char.isAlpha, Char.isUpper, Char.isLower, Bool.or_eq_true, Bool.and_eq_true, decide_eq_true_eq,
        ge_iff_le, UInt32.le_iff_toNat_le, UInt32.reduceToNat, Char.reduceVal] at h
      omega
    have hdigit : c.isDigit = false := by
      refine Bool.eq_false_iff.2 fun h => ?_
      simp only [Char.isDigit, Bool.and_eq_true, decide_eq_true_eq, ge_iff_le, UInt32.le_iff_toNat_le,
        UInt32.reduceToNat, Char.reduceVal] at h
      omega
    simp only [isAlphanumeric, isAlphabetic, isNumber, if_pos hwide, halpha, hdigit, Bool.or_self]
  · -- above ASCII the tables decide
    have hmem := toNat_mem_widerBlanks h hwide
    simp only [isAlphanumeric, isAlphabetic, isNumber, if_neg hwide, alphabeticTable_avoids hmem,
      numberTable_avoids hmem, Bool.or_self]

end SqlFormula.Text
