import SqlFormula.Proofs.Number.ReadBack
import SqlFormula.Proofs.Number.Whole
import SqlFormula.Proofs.Value.Whole

/-!
# Texts of floats

The text of a float is read as a number again. Whole floats below `10 ^ 15` keep a fraction, so they are read as floats. From
there on they have none, and are read as integers for as long as these fit into 64 bits.

## Main definitions

- `Number.LooksInteger` — the numbers that are read as integers from the texts of their floats

## Main statements

- `formatFloat_eq_write` — the text of a float is its shortest decimal, with the fraction `.0` or without
- `parseNumber?_formatFloat` — what is read from the text of a float
-/

namespace SqlFormula

namespace Number

/-! ### Digits with a point -/

section

variable {ds : List Char} {exponent : Int} {wholeFraction : Bool}

theorem placePoint_of_nonneg (hne : ds ≠ []) (h : 0 ≤ exponent) :
    Layout.placePoint ds (exponent + ds.length) wholeFraction =
      ds ++ List.replicate exponent.toNat '0' ++ if wholeFraction then ['.', '0'] else [] := by
  have hlength := List.length_pos_iff.2 hne
  have hzeros : (exponent + ds.length).toNat - ds.length = exponent.toNat := by omega
  rw [Layout.placePoint, if_neg (by omega)]
  simp only [hzeros]
  rw [if_pos (by omega)]

theorem point_mem_placePoint_of_neg (h : exponent < 0) :
    '.' ∈ Layout.placePoint ds (exponent + ds.length) wholeFraction := by
  rw [Layout.placePoint]
  by_cases hpoint : exponent + ds.length ≤ 0
  · rw [if_pos hpoint]
    simp
  · rw [if_neg hpoint]
    simp only
    rw [if_neg (by omega)]
    simp

theorem mem_placePoint {point : Int} {c : Char} (hdigits : ∀ c ∈ ds, c.isDigit)
    (hc : c ∈ Layout.placePoint ds point wholeFraction) : c.isDigit ∨ c = '.' := by
  simp only [Layout.placePoint] at hc
  split_ifs at hc <;> simp only [List.mem_cons, List.mem_append, List.not_mem_nil, or_false] at hc
  · obtain rfl | rfl | hc | hc := hc
    · exact .inl rfl
    · exact .inr rfl
    · exact .inl (isDigit_of_mem_zeros hc)
    · exact .inl (hdigits c hc)
  · obtain (hc | hc) | rfl | rfl := hc
    · exact .inl (hdigits c hc)
    · exact .inl (isDigit_of_mem_zeros hc)
    · exact .inr rfl
    · exact .inl rfl
  · obtain hc | hc := hc
    · exact .inl (hdigits c hc)
    · exact .inl (isDigit_of_mem_zeros hc)
  · obtain hc | rfl | hc := hc
    · exact .inl (hdigits c (List.mem_of_mem_take hc))
    · exact .inr rfl
    · exact .inl (hdigits c (List.mem_of_mem_drop hc))

end

/-! ### The text of a float -/

theorem Layout.writeDecimal_of_plain {l : Layout} (hl : l.plain = none) (d : Decimal) :
    l.writeDecimal d =
      placePoint (Nat.toDigits 10 d.digits) (d.exponent + (Nat.toDigits 10 d.digits).length) l.wholeFraction := by
  simp only [writeDecimal, hl, if_true, sub_add_cancel]

/-- The layout of the text of a float: whole numbers below `10 ^ 15` keep a fraction. -/
def floatLayout (x : Float) : Layout where
  plain := none
  wholeFraction := isWhole x && x.abs < 1e15
  signedPower := false
  tie := .upward

section

variable {x : Float} {negative : Bool} {m : Nat} {q : Int}

theorem exponent_nonneg_of_isWhole (h : parts x = .finite negative m q) (hwhole : isWhole x) (tie : Tie) :
    0 ≤ (shortest tie m q).exponent := by
  by_cases hm : m = 0
  · rw [shortest, if_pos hm]
  · exact (exponent_shortest_nonneg_iff tie (isDouble_of_parts h) (Nat.pos_of_ne_zero hm)).2 ((isWhole_iff h).1 hwhole)

/-- The fraction `.0` after a whole number is the one that a layout adds. -/
theorem formatFloat_eq_write (h : parts x = .finite negative m q) : formatFloat x = (floatLayout x).write x := by
  rw [formatFloat]
  split
  · next hfraction =>
    have hexponent := exponent_nonneg_of_isWhole h (Bool.and_eq_true_iff.1 hfraction).1 .upward
    have hdot : plainLayout.writeDecimal (shortest .upward m q) ++ ['.', '0'] =
        (floatLayout x).writeDecimal (shortest .upward m q) := by
      rw [Layout.writeDecimal_of_plain rfl, Layout.writeDecimal_of_plain rfl,
        placePoint_of_nonneg Nat.toDigits_ne_nil hexponent, placePoint_of_nonneg Nat.toDigits_ne_nil hexponent]
      simp only [floatLayout, hfraction, plainLayout]
      simp
    rw [← String.toList_inj, String.toList_append, Layout.toList_write _ h, Layout.toList_write _ h, List.append_assoc]
    exact congrArg _ hdot
  · next hfraction =>
    have hlayout : floatLayout x = plainLayout := by
      rw [floatLayout, Bool.eq_false_iff.2 hfraction]
      rfl
    rw [hlayout]

theorem toList_formatFloat (h : parts x = .finite negative m q) :
    (formatFloat x).toList =
      (if negative then ['-'] else []) ++ (floatLayout x).writeDecimal (shortest .upward m q) := by
  rw [formatFloat_eq_write h, Layout.toList_write _ h]
  rfl

/-- The decimal that is read from the text of a float is rounded to the float. -/
theorem readDecimal?_formatFloat (h : parts x = .finite negative m q) :
    ∃ d, readDecimal? (formatFloat x).toList = some d ∧ d.nearest double = x := by
  obtain ⟨c, cs, hcs, hc⟩ := (floatLayout x).writeDecimal_eq_cons (shortest .upward m q)
  have hsign : splitSign (formatFloat x).toList = (negative, c :: cs) := by
    rw [toList_formatFloat h, hcs]
    cases negative with
    | false => exact splitSign_of_isDigit hc cs
    | true => rfl
  have hread := readFloat?_write (floatLayout x) x
  rw [← formatFloat_eq_write h, readFloat?, hsign] at hread
  simp only [readSpecial?_of_isDigit hc] at hread
  exact Option.map_eq_some_iff.1 hread

theorem mem_formatFloat (h : parts x = .finite negative m q) {c : Char} (hc : c ∈ (formatFloat x).toList) :
    c.isDigit ∨ c = '.' ∨ c = '-' := by
  rw [toList_formatFloat h, Layout.writeDecimal_of_plain rfl, List.mem_append] at hc
  obtain hc | hc := hc
  · cases negative with
    | false => cases hc
    | true => exact .inr (.inr (List.mem_singleton.1 hc))
  · obtain hc | hc := mem_placePoint (fun _ => isDigit_of_mem_toDigits) hc
    · exact .inl hc
    · exact .inr (.inl hc)

theorem point_mem_formatFloat (h : parts x = .finite negative m q)
    (hpoint : (floatLayout x).wholeFraction ∨ (shortest .upward m q).exponent < 0) : '.' ∈ (formatFloat x).toList := by
  rw [toList_formatFloat h, Layout.writeDecimal_of_plain rfl]
  apply List.mem_append_right
  by_cases hexponent : (shortest .upward m q).exponent < 0
  · exact point_mem_placePoint_of_neg hexponent
  · rw [placePoint_of_nonneg Nat.toDigits_ne_nil (not_lt.1 hexponent), hpoint.resolve_right hexponent]
    simp

/-- Without a fraction the text is that of an integer. -/
theorem readInt64?_formatFloat (h : parts x = .finite negative m q) (hexponent : 0 ≤ (shortest .upward m q).exponent)
    (hfraction : (floatLayout x).wholeFraction = false) :
    readInt64? (formatFloat x).toList =
      int64? (signedNat negative ((shortest .upward m q).digits * 10 ^ (shortest .upward m q).exponent.toNat)) := by
  rw [toList_formatFloat h, Layout.writeDecimal_of_plain rfl, placePoint_of_nonneg Nat.toDigits_ne_nil hexponent, hfraction,
    if_neg Bool.false_ne_true, List.append_nil]
  generalize shortest .upward m q = d
  have hvalue : digitsValue (Nat.toDigits 10 d.digits ++ List.replicate d.exponent.toNat '0') =
      d.digits * 10 ^ d.exponent.toNat := by
    rw [digitsValue_append_zeros, digitsValue_toDigits, Nat.mul_comm]
  have hne : Nat.toDigits 10 d.digits ++ List.replicate d.exponent.toNat '0' ≠ [] :=
    List.append_ne_nil_of_left_ne_nil Nat.toDigits_ne_nil _
  have hdigits : ∀ c ∈ Nat.toDigits 10 d.digits ++ List.replicate d.exponent.toNat '0', c.isDigit :=
    isDigit_append_zeros (fun _ => isDigit_of_mem_toDigits) _
  rw [← hvalue, readInt64?]
  cases negative with
  | false =>
    rw [if_neg Bool.false_ne_true, List.nil_append, readInteger?_of_digits hne hdigits]
    rfl
  | true =>
    rw [if_pos rfl, List.singleton_append, readInteger?_neg_of_digits hne hdigits]
    rfl

/-- The numbers of floats with texts that are read as integers: the whole ones from `10 ^ 15` on, as far as integers of 64
bits go. -/
def LooksInteger (r : ℚ) : Prop :=
  (∃ i : Int, r = i) ∧ 10 ^ 15 ≤ |r| ∧ |r| < 2 ^ 63

theorem looksInteger_iff : LooksInteger (signedValue negative m q) ↔
    (∃ n : Nat, (m : ℚ) * 2 ^ q = n) ∧ 10 ^ 15 ≤ (m : ℚ) * 2 ^ q ∧ (m : ℚ) * 2 ^ q < 2 ^ 63 := by
  have hnonneg : 0 ≤ (m : ℚ) * 2 ^ q := by positivity
  have habs : |signedValue negative m q| = m * 2 ^ q := by
    rw [signedValue]
    cases negative with
    | false => exact abs_of_nonneg hnonneg
    | true => exact (abs_neg _).trans (abs_of_nonneg hnonneg)
  have hwhole : (∃ i : Int, signedValue negative m q = i) ↔ ∃ n : Nat, (m : ℚ) * 2 ^ q = n := by
    constructor
    · rintro ⟨i, hi⟩
      refine ⟨i.natAbs, ?_⟩
      rw [← habs, hi, Nat.cast_natAbs, Int.cast_abs]
    · rintro ⟨n, hn⟩
      refine ⟨signedNat negative n, ?_⟩
      cases negative with
      | false => exact hn
      | true =>
        rw [signedValue, if_pos rfl, hn, signedNat, if_pos rfl]
        push_cast
        rfl
  rw [LooksInteger, habs, hwhole]

end

end Number

open Number

section

variable {x : Float} {negative : Bool} {m : Nat} {q : Int}

theorem parseDecimal?_formatFloat (h : parts x = .finite negative m q) :
    parseDecimal? (formatFloat x).toList = some (.float x) := by
  obtain ⟨d, hread, hnearest⟩ := readDecimal?_formatFloat h
  obtain ⟨c, cs, hcs, hc⟩ := (floatLayout x).writeDecimal_eq_cons (shortest .upward m q)
  have hall : (formatFloat x).toList.all isNumeralChar := by
    rw [List.all_eq_true]
    intro c hc
    obtain hdigit | rfl | rfl := mem_formatFloat h hc
    · simp [isNumeralChar, hdigit]
    · rfl
    · rfl
  have hany : (formatFloat x).toList.any Char.isDigit := by
    rw [List.any_eq_true]
    refine ⟨c, ?_, hc⟩
    rw [toList_formatFloat h, hcs]
    exact List.mem_append_right _ List.mem_cons_self
  rw [parseDecimal?, hall, hany, hread, ← hnearest]
  rfl

/-- A float is read from its text unless an integer is. -/
theorem parseNumber?_of_parts (h : parts x = .finite negative m q) :
    parseNumber? (formatFloat x) =
      match readInt64? (formatFloat x).toList with
      | some i => some (.integer i)
      | none => some (.float x) := by
  have hblank {c : Char} (hc : c ∈ (formatFloat x).toList) : Text.isBlank c = false := by
    obtain hdigit | rfl | rfl := mem_formatFloat h hc
    · exact isBlank_of_isDigit hdigit
    · decide
    · decide
  have htrim : Text.trimBlanks (formatFloat x).toList = (formatFloat x).toList := by
    apply Text.trimBlanks_eq_self
    · exact fun c hc => hblank (List.mem_of_mem_head? hc)
    · exact fun c hc => hblank (List.mem_of_mem_getLast? hc)
  rw [parseNumber?, htrim]
  cases readInt64? (formatFloat x).toList with
  | some i => rfl
  | none => exact parseDecimal?_formatFloat h

theorem value?_bound : value? 1e15 = some (10 ^ 15) := by
  have hparts : parts 1e15 = .finite false 8000000000000000 (-3) := by decide
  rw [value?_of_parts hparts, signedValue]
  norm_num

/-- A fraction is written after whole numbers below `10 ^ 15`. -/
theorem wholeFraction_iff (h : parts x = .finite negative m q) :
    (floatLayout x).wholeFraction = true ↔ (∃ n : Nat, (m : ℚ) * 2 ^ q = n) ∧ (m : ℚ) * 2 ^ q < 10 ^ 15 := by
  rw [← isWhole_iff h, ← abs_lt_iff h value?_bound]
  simp [floatLayout]

/-- The text of a float is that of an integer if the float is whole and not below `10 ^ 15`. -/
theorem integerText_iff (h : parts x = .finite negative m q) :
    ((floatLayout x).wholeFraction = false ∧ 0 ≤ (shortest .upward m q).exponent) ↔
      (∃ n : Nat, (m : ℚ) * 2 ^ q = n) ∧ 10 ^ 15 ≤ (m : ℚ) * 2 ^ q := by
  rw [← Bool.not_eq_true, wholeFraction_iff h]
  by_cases hm : m = 0
  · rw [hm, Nat.cast_zero, zero_mul]
    refine iff_of_false (fun hnone => hnone.1 ⟨⟨0, Nat.cast_zero.symm⟩, by norm_num⟩) (fun hlarge => ?_)
    exact absurd hlarge.2 (by norm_num)
  · rw [exponent_shortest_nonneg_iff .upward (isDouble_of_parts h) (Nat.pos_of_ne_zero hm), not_and, not_lt]
    exact ⟨fun ⟨hle, hwhole⟩ => ⟨hwhole, hle hwhole⟩, fun ⟨hwhole, hle⟩ => ⟨fun _ => hle, hwhole⟩⟩

/-- **The text of a float is read as the float, or as an integer that is rounded to it**: an integer exactly if the float is
whole, has no fraction in its text, and does not exceed the integers of 64 bits. -/
theorem parseNumber?_formatFloat {r : ℚ} (h : value? x = some r) :
    (parseNumber? (formatFloat x) = some (.float x) ↔ ¬LooksInteger r) ∧
      (LooksInteger r → ∃ i, parseNumber? (formatFloat x) = some (.integer i) ∧ ofInt64 i = x) := by
  obtain ⟨negative, m, q, hparts, rfl⟩ := exists_parts_of_value? h
  have hdouble := isDouble_of_parts hparts
  rw [looksInteger_iff, ← and_assoc, ← integerText_iff hparts, parseNumber?_of_parts hparts]
  by_cases hinteger : (floatLayout x).wholeFraction = false ∧ 0 ≤ (shortest .upward m q).exponent
  · -- the text has no point: it is that of an integer, which is read if it fits
    have hm : 0 < m := by
      by_contra hzero
      have hle := ((integerText_iff hparts).1 hinteger).2
      rw [show m = 0 by omega, Nat.cast_zero, zero_mul] at hle
      exact absurd hle (by norm_num)
    have hfits := fits_shortest_iff negative hdouble hm hinteger.2
    have hround := ofInt_shortest negative hdouble hm hinteger.2
    rw [readInt64?_formatFloat hparts hinteger.2 hinteger.1, and_iff_right hinteger, ← hfits]
    by_cases hfit : Fits (signedNat negative ((shortest .upward m q).digits * 10 ^ (shortest .upward m q).exponent.toNat))
    · obtain ⟨k, hk, hki⟩ := exists_int64? hfit
      rw [← hki, assemble_of_parts hparts] at hround
      rw [hk]
      exact ⟨iff_of_false nofun (not_not.2 hfit), fun _ => ⟨k, rfl, hround⟩⟩
    · rw [int64?, if_neg hfit]
      exact ⟨iff_of_true rfl hfit, fun hfit' => absurd hfit' hfit⟩
  · -- a text with a point is not that of an integer
    have hpoint : '.' ∈ (formatFloat x).toList := by
      apply point_mem_formatFloat hparts
      rw [not_and_or, Bool.not_eq_false, not_le] at hinteger
      exact hinteger
    rw [readInt64?_of_point_mem hpoint]
    exact ⟨iff_of_true rfl fun hlooks => hinteger hlooks.1, fun hlooks => absurd hlooks.1 hinteger⟩

theorem parseNumber?_formatFloat_large :
    value? 1152921504606846976.0 = some (2 ^ 60) ∧ LooksInteger (2 ^ 60) ∧
      ∃ i, parseNumber? (formatFloat 1152921504606846976.0) = some (.integer i) ∧ ofInt64 i = 1152921504606846976.0 := by
  have hparts : parts 1152921504606846976.0 = .finite false (2 ^ 52) 8 := by decide +kernel
  have hvalue : value? 1152921504606846976.0 = some (2 ^ 60) := by
    rw [value?_of_parts hparts, signedValue]
    norm_num
  have hlooks : LooksInteger (2 ^ 60) := ⟨⟨2 ^ 60, by norm_num⟩, by norm_num, by norm_num⟩
  exact ⟨hvalue, hlooks, (parseNumber?_formatFloat hvalue).2 hlooks⟩

/-- The text of a float may be that of an integer. -/
theorem parseNumber?_formatFloat_integer :
    isFinite 1e15 = true ∧ parseNumber? (formatFloat 1e15) = some (.integer 1000000000000000) ∧
      parseNumber? (formatFloat 1e15) ≠ some (.float 1e15) := by
  have htext : formatFloat 1e15 = "1000000000000000" := by decide +kernel
  have hread : parseNumber? (formatFloat 1e15) = some (.integer 1000000000000000) := by
    rw [htext]
    rfl
  refine ⟨by decide +kernel, hread, ?_⟩
  rw [hread]
  nofun

end

end SqlFormula
