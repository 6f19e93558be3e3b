import SqlFormula.Proofs.Number.Comparison
import SqlFormula.Proofs.Number.Numeral
import SqlFormula.Proofs.Number.Single

/-!
# Doubles as exact numbers

A finite double stands for a rational number, and doubles are ordered as these are. Rounding to a double keeps the order
with every double: no double lies between a number and the double that it is rounded to.

## Main definitions

- `value?` — the number that a double stands for

## Main statements

- `compareFloats_of_value?` — doubles are ordered as the numbers they stand for
- `nearest?_keeps_order` — rounding keeps the order with every double
- `exists_value?_ofInt` — the double that an integer is rounded to
- `value?_ofInt_of_le` — integers of up to 53 bits are doubles
-/

namespace SqlFormula

namespace Number

open Float.Model (UnpackedFloat)
open Float.Model.UnpackedFloat (Sign unpackExponent unpackMantissa unpackSign)

/-- The number `m · 2 ^ q` with a sign. -/
def signedValue (negative : Bool) (m : Nat) (q : Int) : ℚ :=
  if negative then -(m * 2 ^ q) else m * 2 ^ q

theorem signedValue_zero (negative : Bool) (q : Int) : signedValue negative 0 q = 0 := by
  rw [signedValue, Nat.cast_zero, zero_mul, neg_zero, ite_self]

/-- The number that a double stands for; nothing for a NaN and the infinities. -/
def value? (x : Float) : Option ℚ :=
  match parts x with
  | .finite negative m q => some (signedValue negative m q)
  | _ => none

theorem exists_parts_of_value? {x : Float} {r : ℚ} (h : value? x = some r) :
    ∃ negative m q, parts x = .finite negative m q ∧ signedValue negative m q = r := by
  rw [value?] at h
  split at h
  · next negative m q hparts => exact ⟨negative, m, q, hparts, Option.some.inj h⟩
  · cases h

theorem value?_of_parts {x : Float} {negative : Bool} {m : Nat} {q : Int} (h : parts x = .finite negative m q) :
    value? x = some (signedValue negative m q) := by
  rw [value?, h]

/-! ### The order of doubles -/

/-- The place of a finite double in the line of doubles. -/
def finitePlace (negative : Bool) (m : Nat) (q : Int) : Int × Int × Int :=
  if m = 0 then (0, 0, 0) else if negative then (-1, -q, -m) else (1, q, m)

/-! The fields of the bits, which are what `parts` looks at. -/

theorem toNat_unpackExponent (x : Float) :
    (@unpackExponent .binary64 x.toModel.toBits.toBitVec).toNat = x.toBits.toNat / 2 ^ 52 % 2 ^ 11 := by
  rw [UnpackedFloat.unpackExponent_def, BitVec.extractLsb'_toNat, Nat.shiftRight_eq_div_pow]
  rfl

theorem toNat_unpackMantissa (x : Float) :
    (@unpackMantissa .binary64 x.toModel.toBits.toBitVec).toNat = x.toBits.toNat % 2 ^ 52 := by
  rw [UnpackedFloat.unpackMantissa_def, BitVec.extractLsb'_toNat, Nat.shiftRight_eq_div_pow, Nat.pow_zero, Nat.div_one]
  rfl

theorem unpackSign_bne_zero (x : Float) :
    (@unpackSign .binary64 x.toModel.toBits.toBitVec != 0#1) = (x.toBits.toNat / 2 ^ 63 == 1) := by
  have hlt := toBits_lt x
  have hnat : (@unpackSign .binary64 x.toModel.toBits.toBitVec).toNat = x.toBits.toNat / 2 ^ 63 := by
    rw [UnpackedFloat.unpackSign_def, BitVec.extractLsb'_toNat, Nat.shiftRight_eq_div_pow]
    show x.toBits.toNat / 2 ^ 63 % 2 ^ 1 = _
    omega
  rw [← hnat]
  generalize (@unpackSign .binary64 x.toModel.toBits.toBitVec) = s
  revert s
  decide

/-- The sign of an unpacked double. -/
def signOf (negative : Bool) : Sign :=
  if negative then .negative else .positive

theorem ofBitVec_eq (s : BitVec 1) : Sign.ofBitVec s = signOf (s != 0#1) := by
  have hs : s = 0#1 ∨ s = 1#1 := by
    revert s
    decide
  obtain rfl | rfl := hs <;> rfl

/-- What a double stands for is what it is unpacked to. -/
theorem unpack_of_parts {x : Float} {negative : Bool} {m : Nat} {q : Int} (h : parts x = .finite negative m q) :
    x.toModel.unpack = if hm : 0 < m then .finite (signOf negative) m q hm else .zero (signOf negative) := by
  have hexponent := toNat_unpackExponent x
  have hmantissa := toNat_unpackMantissa x
  have hsign := unpackSign_bne_zero x
  obtain ⟨e, he⟩ : ∃ e, @unpackExponent .binary64 x.toModel.toBits.toBitVec = e := ⟨_, rfl⟩
  obtain ⟨f, hf⟩ : ∃ f, @unpackMantissa .binary64 x.toModel.toBits.toBitVec = f := ⟨_, rfl⟩
  obtain ⟨s, hs⟩ : ∃ s, @unpackSign .binary64 x.toModel.toBits.toBitVec = s := ⟨_, rfl⟩
  rw [he] at hexponent
  rw [hf] at hmantissa
  rw [hs] at hsign
  have hmax : e = -1#11 ↔ e.toNat = 2047 := BitVec.toNat_inj.symm
  have hmin : e = 0#11 ↔ e.toNat = 0 := BitVec.toNat_inj.symm
  have hzero : f = 0#52 ↔ f.toNat = 0 := BitVec.toNat_inj.symm
  simp only [parts, Nat.pow_eq, ← hexponent, ← hmantissa, ← hsign] at h
  rw [Float.Model.unpack, UnpackedFloat.unpack]
  simp only [he, hf, hs, ofBitVec_eq]
  split_ifs at h with h1 h2 h2
  · rw [if_neg (mt hmax.1 h1), if_pos (hmin.2 h2)]
    obtain ⟨rfl, rfl, rfl⟩ := Parts.finite.inj h
    by_cases h0 : f.toNat = 0
    · rw [dif_pos (hzero.2 h0), dif_neg (by omega)]
    · rw [dif_neg (mt hzero.1 h0), dif_pos (by omega), h2]
      rfl
  · rw [if_neg (mt hmax.1 h1), if_neg (mt hmin.1 h2)]
    obtain ⟨rfl, rfl, rfl⟩ := Parts.finite.inj h
    -- the leading bit of the mantissa is not stored
    have happend : (1#1 ++ f).toNat = f.toNat + 2 ^ 52 := by
      rw [BitVec.toNat_append, ← Nat.shiftLeft_add_eq_or_of_lt f.isLt, Nat.add_comm]
      rfl
    rw [dif_pos (by omega)]
    simp only [happend]
    rfl

theorem floatPlace?_of_parts {x : Float} {negative : Bool} {m : Nat} {q : Int} (h : parts x = .finite negative m q) :
    floatPlace? x = some (finitePlace negative m q) := by
  rw [floatPlace?, unpack_of_parts h, finitePlace]
  by_cases hm : 0 < m
  · rw [dif_pos hm, if_neg (Nat.ne_of_gt hm)]
    cases negative <;> rfl
  · rw [dif_neg hm, if_pos (by omega)]
    rfl

section

variable {m n : Nat} {q r : Int}

/-- A greater exponent goes with a greater number: its mantissa has all its bits. -/
theorem IsDouble.lt_of_exponent_lt (hm : IsDouble m q) (hn : IsDouble n r) (h : q < r) :
    (m : ℚ) * 2 ^ q < n * 2 ^ r := by
  have hleast := hm.least_le
  have hlow : (2 ^ 52 : ℚ) ≤ n := by exact_mod_cast hn.full (by omega)
  have hhigh : (m : ℚ) < 2 ^ 53 := by exact_mod_cast hm.lt
  calc (m : ℚ) * 2 ^ q < 2 ^ 53 * 2 ^ q := by gcongr
    _ = 2 ^ 52 * 2 ^ (q + 1) := by rw [zpow_add₀ two_ne_zero]; ring
    _ ≤ n * 2 ^ r := by gcongr <;> [norm_num; omega]

/-- Doubles without a sign are compared by their exponents, then by their mantissas. -/
theorem IsDouble.compare_eq (hm : IsDouble m q) (hn : IsDouble n r) :
    (compare q r).then (compare (m : Int) n) = compare ((m : ℚ) * 2 ^ q) (n * 2 ^ r) := by
  obtain hlt | rfl | hgt := lt_trichotomy q r
  · rw [compare_lt_iff_lt.2 hlt, compare_lt_iff_lt.2 (hm.lt_of_exponent_lt hn hlt)]
    rfl
  · have hpos := two_zpow_pos q
    rw [compare_eq_iff_eq.2 rfl, Ordering.eq_then]
    obtain hlt | rfl | hgt := lt_trichotomy m n
    · rw [compare_lt_iff_lt.2 (by omega), compare_lt_iff_lt.2 (by gcongr)]
    · rw [compare_eq_iff_eq.2 rfl, compare_eq_iff_eq.2 rfl]
    · rw [compare_gt_iff_gt.2 (by omega), compare_gt_iff_gt.2 (by gcongr)]
  · rw [compare_gt_iff_gt.2 hgt, compare_gt_iff_gt.2 (hn.lt_of_exponent_lt hm hgt)]
    rfl

/-- Finite doubles are compared as the numbers they stand for. -/
theorem compareTriples_finitePlace (hm : IsDouble m q) (hn : IsDouble n r) (a b : Bool) :
    compareTriples (finitePlace a m q) (finitePlace b n r) = compare (signedValue a m q) (signedValue b n r) := by
  have hpos {k : Nat} (hk : k ≠ 0) (e : Int) : (0 : ℚ) < k * 2 ^ e := by
    have hk' : (0 : ℚ) < k := by exact_mod_cast Nat.pos_of_ne_zero hk
    positivity
  by_cases hm0 : m = 0
  · -- a zero has no sign, so that of the other decides
    subst hm0
    rw [signedValue_zero]
    by_cases hn0 : n = 0
    · subst hn0
      rw [signedValue_zero]
      exact (compare_eq_iff_eq.2 rfl).symm
    · have hn' := hpos hn0 r
      rw [finitePlace, if_pos rfl, finitePlace, if_neg hn0]
      cases b with
      | false => exact (compare_lt_iff_lt.2 hn').symm
      | true => exact (compare_gt_iff_gt.2 (neg_neg_of_pos hn')).symm
  · have hm' := hpos hm0 q
    rw [finitePlace, if_neg hm0]
    by_cases hn0 : n = 0
    · subst hn0
      rw [signedValue_zero, finitePlace, if_pos rfl]
      cases a with
      | false => exact (compare_gt_iff_gt.2 hm').symm
      | true => exact (compare_lt_iff_lt.2 (neg_neg_of_pos hm')).symm
    · have hn' := hpos hn0 r
      rw [finitePlace, if_neg hn0]
      cases a <;> cases b
      · exact hm.compare_eq hn
      · exact (compare_gt_iff_gt.2 ((neg_neg_of_pos hn').trans hm')).symm
      · exact (compare_lt_iff_lt.2 ((neg_neg_of_pos hm').trans hn')).symm
      · show (compare (-q) (-r)).then (compare (-(m : Int)) (-n)) = compare (-((m : ℚ) * 2 ^ q)) (-(n * 2 ^ r))
        rw [compare_neg_neg, compare_neg_neg, compare_neg_neg, ← Ordering.swap_then, hm.compare_eq hn]

end

/-- **Doubles are ordered as the numbers they stand for.** -/
theorem compareFloats_of_value? {x y : Float} {r s : ℚ} (hx : value? x = some r) (hy : value? y = some s) :
    compareFloats x y = compare r s := by
  obtain ⟨a, m, q, hxparts, rfl⟩ := exists_parts_of_value? hx
  obtain ⟨b, n, t, hyparts, rfl⟩ := exists_parts_of_value? hy
  rw [compareFloats_eq, floatPlace?_of_parts hxparts, floatPlace?_of_parts hyparts]
  exact compareTriples_finitePlace (isDouble_of_parts hxparts) (isDouble_of_parts hyparts) a b

/-! ### Rounding keeps the order -/

section

variable {num den m : Nat} {q : Int}

/-- **Rounding keeps the order with every double**: what is at least a double is rounded to no less, and what is at most
a double is rounded to no more. -/
theorem nearest?_keeps_order (hnum : 0 < num) (hden : 0 < den) (h : double.nearest? num den = some (m, q)) {k : Nat}
    {s : Int} (hk : IsDouble k s) :
    ((k : ℚ) * 2 ^ s ≤ num / den → (k : ℚ) * 2 ^ s ≤ m * 2 ^ q) ∧
      ((num : ℚ) / den ≤ k * 2 ^ s → (m : ℚ) * 2 ^ q ≤ k * 2 ^ s) := by
  obtain ⟨hlog, hlog'⟩ := ratioLog2_spec hnum hden
  obtain ⟨hq, hm, -⟩ := Format.nearest?_spec hnum h
  have hbits : ((double.bits - 1 : Nat) : Int) = 52 := rfl
  have hleastValue : double.least = leastExponent := rfl
  have hnonneg : ((0 : Nat) : ℚ) * 2 ^ q ≤ num / den := by
    rw [Nat.cast_zero, zero_mul]
    positivity
  have hmost : (num : ℚ) / den ≤ (2 ^ 53 : Nat) * 2 ^ q := by
    rw [Nat.cast_pow, Nat.cast_ofNat, ← two_zpow_add]
    exact hlog'.le.trans (zpow_le_zpow_right₀ one_le_two (by omega))
  have hleast := hk.least_le
  by_cases hs : q ≤ s
  · -- the double is a whole number of units of the rounded number
    have hunits : (k : ℚ) * 2 ^ s = ((k * 2 ^ (s - q).toNat : Nat) : ℚ) * 2 ^ q := by
      rw [Nat.cast_mul, Nat.cast_pow, Nat.cast_ofNat, mul_assoc, ← two_zpow_add, Int.toNat_of_nonneg (by omega),
        sub_add_cancel]
    rw [hunits]
    refine ⟨fun hle => ?_, fun hle => ?_⟩
    · have hlow := (nearestNat_bounds hden hle hmost).1
      rw [← hm] at hlow
      gcongr
    · have hhigh := (nearestNat_bounds hden hnonneg hle).2
      rw [← hm] at hhigh
      gcongr
  · -- the double has a lower exponent, so it lies below the power of two at which the quotient lies
    have habove : ((2 ^ 52 : Nat) : ℚ) * 2 ^ q ≤ num / den := by
      rw [Nat.cast_pow, Nat.cast_ofNat, ← two_zpow_add, show ((52 : Nat) : Int) + q = ratioLog2 num den by omega]
      exact hlog
    have hbelow : (k : ℚ) * 2 ^ s < ((2 ^ 52 : Nat) : ℚ) * 2 ^ q := by
      have hlt : (k : ℚ) < 2 ^ 53 := by exact_mod_cast hk.lt
      have hpow : (2 : ℚ) ^ (s + 1) ≤ 2 ^ q := zpow_le_zpow_right₀ one_le_two (by omega)
      calc (k : ℚ) * 2 ^ s < 2 ^ 53 * 2 ^ s := by gcongr
        _ = ((2 ^ 52 : Nat) : ℚ) * 2 ^ (s + 1) := by rw [zpow_add₀ two_ne_zero]; push_cast; ring
        _ ≤ ((2 ^ 52 : Nat) : ℚ) * 2 ^ q := by gcongr
    have hfull := (nearestNat_bounds hden habove hmost).1
    rw [← hm] at hfull
    refine ⟨fun _ => hbelow.le.trans (by gcongr), fun hle => ?_⟩
    exact absurd (habove.trans hle) (not_le.2 hbelow)

/-- A quotient that is a double is rounded to itself. -/
theorem nearest?_eq_self (hnum : 0 < num) (hden : 0 < den) (h : double.nearest? num den = some (m, q)) {k : Nat}
    {s : Int} (hk : IsDouble k s) (hvalue : (num : ℚ) / den = k * 2 ^ s) : (m : ℚ) * 2 ^ q = num / den := by
  obtain ⟨hlow, hhigh⟩ := nearest?_keeps_order hnum hden h hk
  rw [hvalue]
  exact le_antisymm (hhigh hvalue.le) (hlow hvalue.ge)

/-- The double that a quotient is rounded to stands for the mantissa and the exponent found for it. -/
theorem value?_assemble (negative : Bool) (hden : 0 < den) (h : double.nearest? num den = some (m, q)) :
    value? (assemble negative m q) = some (signedValue negative m q) := by
  obtain ⟨hmost, hleast, hle, hfull, hbeyond⟩ := double.bounds_of_nearest? (by decide) (by decide) hden h
  have hleastValue : double.least = leastExponent := rfl
  have hgreatestValue : double.greatest = 971 := rfl
  have hbits : double.bits = 53 := rfl
  rw [hbits] at hmost hbeyond hfull
  obtain rfl | hlt := Nat.eq_or_lt_of_le hmost
  · -- one bit too many goes with the next exponent
    have hq := hbeyond rfl
    have hdouble : IsDouble (2 ^ 52) (q + 1) := ⟨by norm_num, by omega, by omega, fun _ => le_rfl⟩
    have hcarry := assemble_two_pow_53 negative (q := q + 1) (by omega)
    rw [Int.add_sub_cancel] at hcarry
    rw [hcarry, value?_of_parts (parts_assemble negative hdouble)]
    have hunit : ((2 ^ 52 : Nat) : ℚ) * 2 ^ (q + 1) = ((2 ^ 53 : Nat) : ℚ) * 2 ^ q := by
      rw [zpow_add₀ two_ne_zero]
      push_cast
      ring
    rw [signedValue, hunit, signedValue]
  · exact value?_of_parts (parts_assemble negative ⟨hlt, hleast, by omega, hfull⟩)

end

/-! ### Integers as doubles -/

/-- An integer of 64 bits is rounded to no infinity. -/
theorem exists_nearest?_natAbs {i : Int} (hfits : Fits i) : ∃ m q, double.nearest? i.natAbs 1 = some (m, q) := by
  by_cases hi : i.natAbs = 0
  · exact ⟨0, leastExponent, by rw [hi]; rfl⟩
  have hsmall : ratioLog2 i.natAbs 1 < 64 := by
    obtain ⟨hlow, hhigh⟩ := hfits
    refine ratioLog2_lt (Nat.pos_of_ne_zero hi) Nat.one_pos ?_
    rw [Nat.cast_one, div_one]
    exact_mod_cast show i.natAbs < 2 ^ 64 by omega
  have hbits : ((double.bits - 1 : Nat) : Int) = 52 := rfl
  have hleastValue : double.least = -1074 := rfl
  have hgreatestValue : double.greatest = 971 := rfl
  rw [Format.nearest?, if_neg hi, if_neg (by omega)]
  exact ⟨_, _, rfl⟩

theorem ofInt_of_nearest? {i : Int} {m : Nat} {q : Int} (h : double.nearest? i.natAbs 1 = some (m, q)) :
    ofInt i = assemble (i < 0) m q := by
  rw [ofInt, nearest, h]

theorem signed_abs (i : Int) : (if decide (i < 0) then -|(i : ℚ)| else |(i : ℚ)|) = i := by
  by_cases hneg : i < 0
  · rw [if_pos (decide_eq_true hneg), abs_of_neg (by exact_mod_cast hneg), neg_neg]
  · rw [if_neg (by simpa using hneg), abs_of_nonneg (by exact_mod_cast not_lt.1 hneg)]

/-- What keeps the order of magnitudes keeps the order of numbers with signs. -/
theorem keeps_order_signed {x a r : ℚ} (hx : 0 < x) (ha : 0 ≤ a) (hr : 0 ≤ r) (hlow : r ≤ x → r ≤ a)
    (hhigh : x ≤ r → a ≤ r) (m b : Bool) :
    ((if b then -r else r) ≤ (if m then -x else x) → (if b then -r else r) ≤ if m then -a else a) ∧
      ((if m then -x else x) ≤ (if b then -r else r) → (if m then -a else a) ≤ if b then -r else r) := by
  cases m <;> cases b <;> simp only [Bool.false_eq_true, if_true, if_false]
  · exact ⟨hlow, hhigh⟩
  · exact ⟨fun _ => by linarith, fun hle => absurd hle (by linarith)⟩
  · exact ⟨fun hle => absurd hle (by linarith), fun _ => by linarith⟩
  · exact ⟨fun hle => neg_le_neg (hhigh (neg_le_neg_iff.1 hle)), fun hle => neg_le_neg (hlow (neg_le_neg_iff.1 hle))⟩

/-- **An integer of 64 bits is rounded to a double, and no double lies between the two.** -/
theorem exists_value?_ofInt {i : Int} (hfits : Fits i) :
    ∃ a, value? (ofInt i) = some a ∧
      ∀ {x : Float} {r : ℚ}, value? x = some r → (r ≤ i → r ≤ a) ∧ (i ≤ r → a ≤ r) := by
  obtain ⟨m, q, h⟩ := exists_nearest?_natAbs hfits
  refine ⟨_, (congrArg value? (ofInt_of_nearest? h)).trans (value?_assemble _ Nat.one_pos h), ?_⟩
  intro x r hx
  obtain ⟨b, k, s, hparts, rfl⟩ := exists_parts_of_value? hx
  by_cases hzero : i = 0
  · -- zero is rounded to zero
    subst hzero
    obtain ⟨rfl, rfl⟩ : 0 = m ∧ leastExponent = q := Prod.mk.inj (Option.some.inj h)
    rw [signedValue_zero, Int.cast_zero]
    exact ⟨id, id⟩
  · have hkeeps := nearest?_keeps_order (Int.natAbs_pos.2 hzero) Nat.one_pos h (isDouble_of_parts hparts)
    rw [Nat.cast_one, div_one, Nat.cast_natAbs, Int.cast_abs] at hkeeps
    have hpos : (0 : ℚ) < |(i : ℚ)| := abs_pos.2 (by exact_mod_cast hzero)
    have horder := keeps_order_signed hpos (by positivity) (by positivity) hkeeps.1 hkeeps.2 (i < 0) b
    rwa [signed_abs] at horder

/-- Numbers of up to 53 bits are doubles. -/
theorem exists_isDouble {n : Nat} (hpos : 0 < n) (hle : n ≤ 2 ^ 53) :
    ∃ (k : Nat) (s : Int), IsDouble k s ∧ (n : ℚ) = k * 2 ^ s := by
  obtain rfl | hlt := Nat.eq_or_lt_of_le hle
  · exact ⟨2 ^ 52, 1, ⟨by norm_num, by decide, by decide, fun _ => le_rfl⟩, by norm_num⟩
  · have hlog : n.log2 < 53 := (Nat.log2_lt (Nat.ne_of_gt hpos)).2 hlt
    obtain ⟨j, hj⟩ : ∃ j, n.log2 + j = 52 := ⟨52 - n.log2, by omega⟩
    have hleastValue : leastExponent = -1074 := rfl
    refine ⟨n * 2 ^ j, 0 - j, isDouble_scaled hpos hj (by omega) (by omega), ?_⟩
    rw [zero_sub, zpow_neg, zpow_natCast]
    push_cast
    field_simp

/-- **Integers of up to 53 bits are doubles.** -/
theorem value?_ofInt_of_le {i : Int} (hi : i.natAbs ≤ 2 ^ 53) : value? (ofInt i) = some (i : ℚ) := by
  obtain ⟨m, q, h⟩ := exists_nearest?_natAbs (i := i) ⟨by omega, by omega⟩
  rw [ofInt_of_nearest? h, value?_assemble _ Nat.one_pos h]
  congr 1
  by_cases hzero : i = 0
  · subst hzero
    obtain ⟨rfl, rfl⟩ : 0 = m ∧ leastExponent = q := Prod.mk.inj (Option.some.inj h)
    rw [signedValue_zero, Int.cast_zero]
  · obtain ⟨k, s, hk, hvalue⟩ := exists_isDouble (Int.natAbs_pos.2 hzero) hi
    have hself := nearest?_eq_self (Int.natAbs_pos.2 hzero) Nat.one_pos h hk (by rw [Nat.cast_one, div_one, hvalue])
    rw [Nat.cast_one, div_one, Nat.cast_natAbs, Int.cast_abs] at hself
    rw [signedValue, hself, signed_abs]

end Number

end SqlFormula
