import SqlFormula.Eval.TextFunctions
import SqlFormula.Proofs.Number.Numeral

/-!
# Parts of texts

A part of a text has the characters at the positions of a window, which begins or ends at a start. No number on the way
leaves 64 bits. If no length is given, the part has one character more than the whole text at most, counted from the
start; so it is the rest of the text unless the start lies far before the first character.

## Main definitions

- `startPosition` — the position that a start stands for
- `InWindow` — the positions of a part
- `charactersAt` — the characters of a text at some positions

## Main statements

- `partFrom?_eq`, `partBefore?_eq` — the bounds of a part stay within 64 bits
- `substr_eq_charactersAt` — a part has the characters in its window
- `Call.ofSubstr_window` — calls, with and without a length
-/

namespace SqlFormula

/-! ### Windows -/

/-- The position that a start stands for in a text of `n` characters: from the end if it is negative. -/
def startPosition (n : Nat) (start : Int) : Int :=
  if start < 0 then n + 1 + start else start

/-- The positions of a part: from the start on, and as many as the length says, to the front if it is negative. -/
def InWindow (p : Int) : Option Int → Int → Prop
  | none, i => p ≤ i
  | some length, i => if 0 ≤ length then p ≤ i ∧ i < p + length else p + length ≤ i ∧ i < p

instance (p : Int) (length : Option Int) (i : Int) : Decidable (InWindow p length i) :=
  match length with
  | none => inferInstanceAs (Decidable (p ≤ i))
  | some length => inferInstanceAs (Decidable (if 0 ≤ length then p ≤ i ∧ i < p + length else p + length ≤ i ∧ i < p))

theorem inWindow_of_nonneg {p length i : Int} (h : 0 ≤ length) :
    InWindow p (some length) i ↔ p ≤ i ∧ i < p + length := by
  rw [InWindow, if_pos h]

theorem inWindow_of_neg {p length i : Int} (h : length < 0) :
    InWindow p (some length) i ↔ p + length ≤ i ∧ i < p := by
  rw [InWindow, if_neg (Int.not_le.2 h)]

/-- The characters at the positions with a property; positions are counted from 1. -/
def charactersAt (P : Int → Prop) [DecidablePred P] (cs : List Char) : List Char :=
  ((cs.zipIdx 1).filter fun e => P e.2).map Prod.fst

section

variable {P Q : Int → Prop} [DecidablePred P] [DecidablePred Q] {cs : List Char}

theorem charactersAt_congr (h : ∀ i : Int, 1 ≤ i → i ≤ cs.length → (P i ↔ Q i)) :
    charactersAt P cs = charactersAt Q cs := by
  rw [charactersAt, charactersAt]
  congr 1
  refine List.filter_congr fun e he => ?_
  have hlow := List.le_snd_of_mem_zipIdx he
  have hhigh := List.snd_lt_of_mem_zipIdx he
  exact decide_eq_decide.2 (h e.2 (by omega) (by omega))

/-- Characters counted from some number on, between two bounds. -/
theorem filter_zipIdx_between (cs : List Char) (k a b : Nat) :
    ((cs.zipIdx k).filter fun e => a ≤ e.2 ∧ e.2 < b).map Prod.fst = (cs.drop (a - k)).take (b - max a k) := by
  induction cs generalizing k with
  | nil => simp
  | cons c cs ih =>
    rw [List.zipIdx_cons, List.filter_cons]
    by_cases hlow : a ≤ k
    · have hdrop : a - k = 0 := by omega
      have hdrop' : a - (k + 1) = 0 := by omega
      by_cases hhigh : k < b
      · have htake : b - max a k = (b - max a (k + 1)) + 1 := by omega
        rw [if_pos (by simp [hlow, hhigh]), List.map_cons, ih, hdrop, hdrop', htake]
        simp
      · have htake : b - max a k = 0 := by omega
        have htake' : b - max a (k + 1) = 0 := by omega
        rw [if_neg (by simp [hhigh]), ih, htake, htake']
        simp
    · have hdrop : a - k = (a - (k + 1)) + 1 := by omega
      have htake : b - max a k = b - max a (k + 1) := by omega
      rw [if_neg (by simp [hlow]), ih, hdrop, htake, List.drop_succ_cons]

theorem charactersAt_between (a b : Nat) (cs : List Char) :
    charactersAt (fun i => (a : Int) < i ∧ i ≤ b) cs = (cs.drop a).take (b - a) := by
  have h := filter_zipIdx_between cs 1 (a + 1) (b + 1)
  have hmax : max (a + 1) 1 = a + 1 := by omega
  rw [hmax, Nat.add_sub_cancel, Nat.add_sub_add_right] at h
  rw [← h, charactersAt]
  congr 1
  refine List.filter_congr fun e _ => decide_eq_decide.2 ?_
  omega

theorem charactersAt_of_forall (h : ∀ i : Int, 1 ≤ i → P i) : charactersAt P cs = cs := by
  have hall : ∀ e ∈ cs.zipIdx 1, decide (P e.2) = true := fun e he =>
    decide_eq_true (h e.2 (by have := List.le_snd_of_mem_zipIdx he; omega))
  rw [charactersAt, List.filter_eq_self.2 hall, List.zipIdx_map_fst]

end

/-! ### Bounds within 64 bits -/

theorem Number.neg_iff (i : Int64) : i < 0 ↔ i.toInt < 0 :=
  Int64.lt_iff_toInt_lt

theorem Number.pos_iff (i : Int64) : 0 < i ↔ 0 < i.toInt :=
  Int64.lt_iff_toInt_lt

/-- The part that begins at a start has its first index before the start by one, and the number of characters that is
asked for; what lies before the first character is cut off from both. -/
theorem partFrom?_eq {n : Int64} {length : Nat} (start count : Int64) (hn : n.toInt = length)
    (hcount : 0 ≤ count.toInt) :
    ∃ first rest : Int64, partFrom? n start count = some (first, rest) ∧
      first.toInt = max 0 (startPosition length start.toInt - 1) ∧
      rest.toInt = max 0 (count.toInt + min 0 (startPosition length start.toInt - 1)) := by
  have hbound := n.toInt_lt
  have hstart := start.toInt_lt
  have hstart' := start.le_toInt
  have hcount' := count.toInt_lt
  rw [partFrom?, startPosition]
  by_cases hneg : start.toInt < 0
  · obtain ⟨first, hfirst, hfirst'⟩ := Number.exists_int64? (i := start.toInt + n.toInt) ⟨by omega, by omega⟩
    rw [if_pos ((Number.neg_iff start).2 hneg), if_pos hneg, hfirst, Option.bind_eq_bind, Option.bind_some]
    -- a start that is counted from the end may lie before the first character
    by_cases hbefore : first.toInt < 0
    · obtain ⟨rest, hrest, hrest'⟩ := Number.exists_int64? (i := count.toInt + first.toInt) ⟨by omega, by omega⟩
      rw [if_pos ((Number.neg_iff first).2 hbefore), hrest, Option.bind_some]
      refine ⟨_, _, rfl, ?_, ?_⟩
      · show (0 : Int) = _
        omega
      · by_cases hnone : rest.toInt < 0
        · rw [if_pos ((Number.neg_iff rest).2 hnone)]
          show (0 : Int) = _
          omega
        · rw [if_neg (mt (Number.neg_iff rest).1 hnone)]
          omega
    · rw [if_neg (mt (Number.neg_iff first).1 hbefore)]
      exact ⟨_, _, rfl, by omega, by omega⟩
  · rw [if_neg (mt (Number.neg_iff start).1 hneg), if_neg hneg]
    by_cases hpos : 0 < start.toInt
    · obtain ⟨first, hfirst, hfirst'⟩ := Number.exists_int64? (i := start.toInt - 1) ⟨by omega, by omega⟩
      rw [if_pos ((Number.pos_iff start).2 hpos), hfirst]
      exact ⟨_, _, rfl, by omega, by omega⟩
    · rw [if_neg (mt (Number.pos_iff start).1 hpos)]
      -- the start 0 lies before the first character, and takes one from the count
      by_cases hsome : 0 < count.toInt
      · obtain ⟨rest, hrest, hrest'⟩ := Number.exists_int64? (i := count.toInt - 1) ⟨by omega, by omega⟩
        rw [if_pos ((Number.pos_iff count).2 hsome), hrest]
        refine ⟨_, _, rfl, ?_, by omega⟩
        show (0 : Int) = _
        omega
      · rw [if_neg (mt (Number.pos_iff count).1 hsome)]
        refine ⟨_, _, rfl, ?_, by omega⟩
        show (0 : Int) = _
        omega

/-- The part before another one ends where that begins, and is cut off at the front. -/
theorem partBefore?_eq (first count : Int64) (hfirst : 0 ≤ first.toInt) (hcount : 0 ≤ count.toInt) :
    ∃ before rest : Int64, partBefore? first count = some (before, rest) ∧
      before.toInt = max 0 (first.toInt - count.toInt) ∧ rest.toInt = min count.toInt first.toInt := by
  have hbound := first.toInt_lt
  have hbound' := count.toInt_lt
  obtain ⟨before, hbefore, hbefore'⟩ := Number.exists_int64? (i := first.toInt - count.toInt) ⟨by omega, by omega⟩
  rw [partBefore?, hbefore, Option.bind_eq_bind, Option.bind_some]
  by_cases hneg : before.toInt < 0
  · obtain ⟨rest, hrest, hrest'⟩ := Number.exists_int64? (i := count.toInt + before.toInt) ⟨by omega, by omega⟩
    rw [if_pos ((Number.neg_iff before).2 hneg), hrest]
    refine ⟨_, _, rfl, ?_, by omega⟩
    show (0 : Int) = _
    omega
  · rw [if_neg (mt (Number.neg_iff before).1 hneg)]
    exact ⟨_, _, rfl, by omega, by omega⟩

/-! ### Parts -/

/-- What is cut out of a text by a first index and a number of characters. -/
theorem take_drop_indexIn {cs : List Char} {n first count : Int64} (hn : n.toInt = cs.length) (hfirst : 0 ≤ first.toInt)
    (hcount : 0 ≤ count.toInt) :
    (cs.drop (indexIn n first)).take
        (indexIn n (Number.int64Nearest (first.toInt + count.toInt)) - indexIn n first) =
      charactersAt (fun i => first.toInt < i ∧ i ≤ first.toInt + count.toInt) cs := by
  have hbound := n.toInt_lt
  rw [← charactersAt_between]
  refine charactersAt_congr fun i hlow hhigh => ?_
  rw [indexIn, indexIn, Number.toInt_int64Nearest, hn]
  omega

/-- **A part has the characters in its window**, and no number on the way to it leaves 64 bits. A length that is not
given counts as one more than the length of the text. -/
theorem substr_eq_charactersAt (cs : List Char) (hlength : cs.length + 1 < 2 ^ 63) (start : Int64)
    (length : Option Int64) :
    substr cs start length = some (charactersAt
      (InWindow (startPosition cs.length start.toInt) (some ((length.map Int64.toInt).getD (cs.length + 1)))) cs) := by
  -- the numbers that are computed on the way, none of which overflows
  obtain ⟨n, hn, hn'⟩ : ∃ n, Int64.ofNat cs.length = n ∧ n.toInt = cs.length :=
    ⟨_, rfl, Int64.toInt_ofNat_of_lt (by omega)⟩
  obtain ⟨wanted, hwanted, hwanted'⟩ : ∃ wanted, length.getD (Number.int64Nearest (n.toInt + 1)) = wanted ∧
      wanted.toInt = (length.map Int64.toInt).getD (cs.length + 1) := by
    refine ⟨_, rfl, ?_⟩
    cases length with
    | some length => rfl
    | none =>
      show (Number.int64Nearest (n.toInt + 1)).toInt = (cs.length : Int) + 1
      rw [Number.toInt_int64Nearest, hn']
      omega
  obtain ⟨count, hcount, hcount'⟩ :
      ∃ count, (if wanted < 0 then Number.int64Nearest (-wanted.toInt) else wanted) = count ∧
        count.toInt = min (wanted.toInt.natAbs : Int) (2 ^ 63 - 1) := by
    have hbound := wanted.toInt_lt
    refine ⟨_, rfl, ?_⟩
    by_cases hneg : wanted.toInt < 0
    · rw [if_pos ((Number.neg_iff wanted).2 hneg), Number.toInt_int64Nearest]
      omega
    · rw [if_neg (mt (Number.neg_iff wanted).1 hneg)]
      omega
  obtain ⟨first, rest, hpart, hfirst, hrest⟩ := partFrom?_eq start count hn' (by omega)
  have hposition : startPosition cs.length start.toInt ≤ 2 ^ 63 - 1 := by
    have hstart := start.toInt_lt
    rw [startPosition]
    split <;> omega
  have hbound := wanted.toInt_lt
  rw [substr]
  simp only [hn, hwanted, hcount, hpart, ← hwanted', Option.bind_eq_bind, Option.bind_some]
  by_cases hneg : wanted.toInt < 0
  · -- a negative length asks for the characters before the start
    obtain ⟨before, rest', hback, hbefore, hrest'⟩ :=
      partBefore?_eq first rest (by omega) (by omega)
    rw [if_pos ((Number.neg_iff wanted).2 hneg), hback, Option.bind_some]
    dsimp only
    rw [take_drop_indexIn hn' (by omega) (by omega)]
    congr 1
    refine charactersAt_congr fun i hlow hhigh => ?_
    rw [inWindow_of_neg hneg]
    omega
  · rw [if_neg (mt (Number.neg_iff wanted).1 hneg), take_drop_indexIn hn' (by omega) (by omega)]
    congr 1
    refine charactersAt_congr fun i hlow hhigh => ?_
    rw [inWindow_of_nonneg (Int.not_lt.1 hneg)]
    omega

/-- Without a length the characters reach to the end, unless the start is so far before the first character that one
more than the length of the text is not enough. -/
theorem charactersAt_rest_iff (cs : List Char) (start : Int) :
    charactersAt (InWindow (startPosition cs.length start) (some (cs.length + 1))) cs =
        charactersAt (InWindow (startPosition cs.length start) none) cs ↔
      cs = [] ∨ -(cs.length + 1) ≤ start := by
  constructor
  · intro h
    by_contra hnot
    obtain ⟨hne, hfar⟩ := not_or.1 hnot
    have hpos := List.length_pos_iff.2 hne
    rw [startPosition, if_pos (by omega)] at h
    -- from so far before the text, all of it is taken without a length, but not with one
    have hwhole : charactersAt (InWindow (cs.length + 1 + start) none) cs = cs :=
      charactersAt_of_forall fun i hi => show (cs.length : Int) + 1 + start ≤ i by omega
    have hcut : charactersAt (InWindow (cs.length + 1 + start) (some (cs.length + 1))) cs =
        (cs.drop 0).take ((2 * cs.length + 1 + start).toNat - 0) := by
      rw [← charactersAt_between]
      refine charactersAt_congr fun i hlow hhigh => ?_
      rw [inWindow_of_nonneg (by omega)]
      omega
    have hlength := congrArg List.length (hcut.symm.trans (h.trans hwhole))
    rw [List.length_take, List.drop_zero] at hlength
    omega
  · rintro (rfl | hnear)
    · rfl
    · refine charactersAt_congr fun i hlow hhigh => ?_
      rw [inWindow_of_nonneg (by omega)]
      show _ ↔ startPosition cs.length start ≤ i
      rw [startPosition]
      split <;> omega

namespace Call

theorem ofSubstr_eq (s : String) (start : Int64) (length : Option Int64) :
    ofSubstr (.text s :: .integer start :: (length.map Value.integer).toList) = partOf s start length := by
  cases length <;> rfl

/-- **A call of `substr` gives the characters in the window of its start and its length**, and never fails for a number
that leaves 64 bits. Without a length it gives the characters from the start to the end exactly if the start is at most
one character before the first one, or the text is empty; else it gives fewer. -/
theorem ofSubstr_window {s : String} (hlength : s.length + 1 < 2 ^ 63) (start : Int64) (length : Option Int64) :
    ∃ part : String,
      ofSubstr (.text s :: .integer start :: (length.map Value.integer).toList) = .ok (.text part) ∧
      part.toList = charactersAt (InWindow (startPosition s.length start.toInt)
        (some ((length.map Int64.toInt).getD (s.length + 1)))) s.toList ∧
      (part.toList = charactersAt (InWindow (startPosition s.length start.toInt) (length.map Int64.toInt)) s.toList ↔
        length ≠ none ∨ s = "" ∨ -(s.length + 1) ≤ start.toInt) := by
  have hcount : s.toList.length = s.length := String.length_toList
  have hpart := substr_eq_charactersAt s.toList hlength start length
  rw [hcount] at hpart
  rw [ofSubstr_eq, partOf, hpart]
  refine ⟨_, rfl, String.toList_ofList, ?_⟩
  rw [String.toList_ofList]
  cases length with
  | some length => simp
  | none =>
    have hrest := charactersAt_rest_iff s.toList start.toInt
    rw [hcount, String.toList_eq_nil_iff] at hrest
    simpa using hrest

/-- Two characters before the first one: of three characters the last one is missing. -/
theorem ofSubstr_window_farBefore :
    "abc".length + 1 < 2 ^ 63 ∧
      ∃ part : String, ofSubstr [.text "abc", .integer (-5)] = .ok (.text part) ∧ part.toList = ['a', 'b'] := by
  refine ⟨by decide, ?_⟩
  obtain ⟨part, hcall, hpart, -⟩ := ofSubstr_window (s := "abc") (by decide) (-5) none
  exact ⟨part, hcall, hpart.trans (by decide)⟩

/-- A call without a length does not always give the characters from the start to the end. -/
theorem ofSubstr_rest_cut :
    ¬∀ (s : String) (start : Int64) (length : Option Int64), s.length + 1 < 2 ^ 63 →
      ofSubstr (.text s :: .integer start :: (length.map Value.integer).toList) = .ok (.text (String.ofList
        (charactersAt (InWindow (startPosition s.length start.toInt) (length.map Int64.toInt)) s.toList))) := by
  intro h
  have hcall : ofSubstr [.text "abc", .integer (-5)] = .ok (.text "ab") := by rfl
  have hwhole := hcall.symm.trans (h "abc" (-5) none (by decide))
  have htext : "ab" = String.ofList (charactersAt (InWindow (startPosition 3 (-5)) none) ['a', 'b', 'c']) := by
    injection hwhole with hvalue
    injection hvalue
  exact absurd htext (by decide)

end Call

end SqlFormula
