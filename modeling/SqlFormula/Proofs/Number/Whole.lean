import SqlFormula.Proofs.Number.Exact
import SqlFormula.Proofs.Number.Shortest

/-!
# Whole doubles

A double is whole if what it stands for is, and it has the same size as its magnitude. The shortest decimal tells whole
doubles from the others: its digits end at the units or before them if the double is whole, and after them if it is not.

## Main statements

- `abs_of_parts`, `abs_lt_iff` — the magnitude of a double
- `isWhole_iff` — the doubles that are whole
- `exponent_shortest_nonneg_iff` — the shortest decimal of a double is whole if the double is
-/

namespace SqlFormula.Number

open Float.Model (UnpackedFloat)
open Float.Model.UnpackedFloat (packComponents)

variable {x : Float} {negative : Bool} {m : Nat} {q : Int}

/-! ### Magnitudes -/

theorem toNat_packComponents (e : BitVec 11) (f : BitVec 52) :
    (packComponents .binary64 .positive e f).toNat = bitsOf false e.toNat f.toNat := by
  rw [packComponents, BitVec.toNat_append, ← Nat.shiftLeft_add_eq_or_of_lt f.isLt, BitVec.toNat_append,
    ← Nat.shiftLeft_add_eq_or_of_lt e.isLt, Nat.shiftLeft_eq]
  show (0 <<< 11 + e.toNat) * 2 ^ 52 + f.toNat = 0 + e.toNat * 2 ^ 52 + f.toNat
  rw [Nat.zero_shiftLeft, Nat.zero_add, Nat.zero_add]

/-- A positive double is packed into its bits. -/
theorem toNat_pack (h : IsDouble m q) (hm : 0 < m) :
    (UnpackedFloat.pack .binary64 (.finite .positive m q hm)).toNat =
      bitsOf false (if m < 2 ^ 52 then 0 else (q + 1075).toNat) (m % 2 ^ 52) := by
  have hlt := h.lt
  have hle := h.le
  have hleast := h.least_le
  have hleastValue : leastExponent = -1074 := rfl
  have hbiased : q + Float.Model.Format.binary64.exponentBias +
      Float.Model.Format.binary64.mantissaBitsWithoutImplicit = q + 1075 := by
    show q + 1023 + 52 = _
    omega
  have hrange : ¬2 ^ Float.Model.Format.binary64.exponentBits ≤ (q + 1075).toNat + 1 := by
    show ¬2 ^ 11 ≤ _
    omega
  have hlog : m.log2 + 1 = Float.Model.Format.binary64.mantissaBits ↔ ¬m < 2 ^ 52 := by
    have h53 : m.log2 < 53 := (Nat.log2_lt (by omega)).2 hlt
    rw [not_lt, ← Nat.le_log2 (by omega)]
    show m.log2 + 1 = 1 + 52 ↔ _
    omega
  unfold UnpackedFloat.pack
  simp only [hbiased, if_neg hrange, hlog]
  by_cases hm52 : m < 2 ^ 52
  · -- without the leading bit the exponent field is 0
    rw [if_neg (not_not.2 hm52), if_pos hm52, toNat_packComponents, BitVec.toNat_ofNat]
    rfl
  · have hexponent : (q + 1075).toNat < 2 ^ 11 := by omega
    rw [if_pos hm52, if_neg hm52, toNat_packComponents, BitVec.toNat_ofNat, BitVec.toNat_ofNat,
      Nat.mod_eq_of_lt hexponent]

/-- The magnitude of a double is the double without its sign. -/
theorem abs_of_parts (h : parts x = .finite negative m q) : x.abs = assemble false m q := by
  have hdouble := isDouble_of_parts h
  have hbits : x.abs.toBits.toNat = (UnpackedFloat.pack .binary64 x.toModel.unpack.abs).toNat := rfl
  rw [unpack_of_parts h] at hbits
  by_cases hm : 0 < m
  · rw [dif_pos hm, UnpackedFloat.abs, toNat_pack hdouble hm] at hbits
    rw [← ofBits_toNat x.abs, assemble_of_isDouble false hdouble, hbits]
  · obtain rfl : m = 0 := by omega
    rw [dif_neg hm, UnpackedFloat.abs] at hbits
    rw [← ofBits_toNat x.abs, hbits, assemble_zero]
    rfl

theorem compareFloats_eq_lt_iff {x y : Float} : compareFloats x y = .lt ↔ x < y := by
  rw [compareFloats]
  split_ifs with hlt
  · exact iff_of_true rfl hlt
  · exact iff_of_false (by decide) hlt
  · exact iff_of_false (by decide) hlt

theorem abs_lt_iff {y : Float} {s : ℚ} (h : parts x = .finite negative m q) (hy : value? y = some s) :
    x.abs < y ↔ (m : ℚ) * 2 ^ q < s := by
  have habs : value? x.abs = some ((m : ℚ) * 2 ^ q) := by
    rw [abs_of_parts h]
    exact value?_of_parts (parts_assemble false (isDouble_of_parts h))
  rw [← compareFloats_eq_lt_iff, compareFloats_of_value? habs hy]
  exact compare_lt_iff_lt

/-! ### Whole doubles -/

theorem wholePart_eq_false_iff (m : Nat) (q : Int) : (wholePart m q).2 = false ↔ ∃ n : Nat, (m : ℚ) * 2 ^ q = n := by
  rw [wholePart]
  split
  · next hq =>
    refine iff_of_true rfl ⟨m * 2 ^ q.toNat, ?_⟩
    push_cast
    rw [← zpow_natCast, Int.toNat_of_nonneg hq]
  · next hq =>
    obtain ⟨k, rfl⟩ : ∃ k : Nat, q = -k := ⟨(-q).toNat, by omega⟩
    have hvalue (n : Nat) : (m : ℚ) * 2 ^ (-(k : Int)) = n ↔ m = n * 2 ^ k := by
      rw [zpow_neg, zpow_natCast, ← div_eq_mul_inv, div_eq_iff (by positivity)]
      exact_mod_cast Iff.rfl
    simp only [hvalue, neg_neg, Int.toNat_natCast, Nat.pow_eq, bne_eq_false_iff_eq, ← Nat.dvd_iff_mod_eq_zero]
    exact ⟨fun ⟨n, hn⟩ => ⟨n, by rw [hn, Nat.mul_comm]⟩, fun ⟨n, hn⟩ => ⟨n, by rw [hn, Nat.mul_comm]⟩⟩

/-- A double is whole if its magnitude is. -/
theorem isWhole_iff (h : parts x = .finite negative m q) : isWhole x = true ↔ ∃ n : Nat, (m : ℚ) * 2 ^ q = n := by
  rw [isWhole, h, ← wholePart_eq_false_iff]
  exact iff_of_eq (Bool.not_eq_true' _)

/-! ### Shortest decimals -/

theorem contains_self (hm : 0 < m) : (interval m q).Contains (q - 2) (m * 2 ^ q) := by
  have hunit : (m : ℚ) * 2 ^ q = 4 * m * 2 ^ (q - 2) := by
    rw [zpow_sub₀ two_ne_zero]
    ring
  have hlow : (interval m q).low < 4 * m := by
    simp only [interval]
    split_ifs <;> omega
  have hhigh : 4 * m < (interval m q).high := Nat.lt_add_of_pos_right Nat.two_pos
  have hpos := two_zpow_pos (q - 2)
  rw [hunit]
  constructor
  · left
    have : ((interval m q).low : ℚ) < 4 * m := by exact_mod_cast hlow
    gcongr
  · left
    have : (4 * m : ℚ) < (interval m q).high := by exact_mod_cast hhigh
    gcongr

/-- A double that is a point of a grid is found on it. -/
theorem exists_nearestOnGrid_of_point (tie : Tie) (hm : 0 < m) {k : Int} {n : Nat} (hn : (m : ℚ) * 2 ^ q = n * 10 ^ k) :
    ∃ c, nearestOnGrid tie (interval m q) (q - 2) k = some c := by
  have hbelow : (interval m q).middle * (commonUnit (q - 2) k).1 / (commonUnit (q - 2) k).2 = n := by
    obtain ⟨unit, -, hbinary, hdecimal⟩ := commonUnit_spec (q - 2) k
    have hpoint : (interval m q).middle * (commonUnit (q - 2) k).1 = n * (commonUnit (q - 2) k).2 := by
      rw [← Nat.cast_inj (R := ℚ)]
      show (((4 * m * (commonUnit (q - 2) k).1 : Nat) : ℚ)) = _
      push_cast
      rw [hbinary, hdecimal, ← mul_assoc (n : ℚ), ← hn, zpow_sub₀ two_ne_zero]
      ring
    rw [hpoint]
    exact Nat.mul_div_cancel _ (commonUnit_pos (q - 2) k).2
  have hinside := (inside_iff (interval m q) (q - 2) k n).2 (hn ▸ contains_self hm)
  simp only [nearestOnGrid, hbelow]
  exact exists_of_inside (.inl hinside)

theorem le_exponent_normalize (fuel : Nat) (d : Decimal) : d.exponent ≤ (d.normalize fuel).exponent := by
  induction fuel generalizing d with
  | zero => exact le_rfl
  | succ fuel ih =>
    rw [Decimal.normalize]
    split
    · have hnext := ih { digits := d.digits / 10, exponent := d.exponent + 1 }
      simp only at hnext
      omega
    · exact le_rfl

/-- The search goes no further than to the first grid on which something is found. -/
theorem le_exponent_searchGrids {tie : Tie} {i : Interval} {e k₀ : Int} {c : Nat}
    (hfound : nearestOnGrid tie i e k₀ = some c) :
    ∀ (fuel : Nat) (k : Int), k₀ ≤ k → k₀ ≤ (searchGrids tie i e fuel k).exponent := by
  intro fuel
  induction fuel with
  | zero => exact fun k hk => hk
  | succ fuel ih =>
    intro k hk
    rw [searchGrids]
    split
    · exact hk
    · next hnone =>
      have hne : k₀ ≠ k := by
        rintro rfl
        rw [hnone] at hfound
        cases hfound
      exact ih (k - 1) (by omega)

/-- A natural number with a sign. -/
def signedNat (negative : Bool) (n : Nat) : Int :=
  if negative then -n else n

theorem pos_of_contains (hm : 0 < m) {n : Nat} (hn : (interval m q).Contains (q - 2) (n : ℚ)) : 0 < n := by
  have hlow : 0 < (interval m q).low := by
    simp only [interval]
    split_ifs <;> omega
  have hpos : (0 : ℚ) < (interval m q).low * 2 ^ (q - 2) := mul_pos (by exact_mod_cast hlow) (two_zpow_pos _)
  exact_mod_cast hpos.trans_le hn.low_le

/-- A double has one mantissa and one exponent. -/
theorem IsDouble.eq_of_value_eq {n : Nat} {r : Int} (hm : IsDouble m q) (hn : IsDouble n r)
    (h : (m : ℚ) * 2 ^ q = n * 2 ^ r) : m = n ∧ q = r := by
  have hcompare := hm.compare_eq hn
  rw [compare_eq_iff_eq.2 h, Ordering.then_eq_eq, compare_eq_iff_eq, compare_eq_iff_eq] at hcompare
  exact ⟨Int.natCast_inj.1 hcompare.2, hcompare.1⟩

/-- An integer in the interval of a double is rounded to the double. -/
theorem ofInt_of_contains (negative : Bool) (h : IsDouble m q) (hm : 0 < m) {n : Nat}
    (hn : (interval m q).Contains (q - 2) (n : ℚ)) : ofInt (signedNat negative n) = assemble negative m q := by
  have hpos := pos_of_contains hm hn
  have hsign : decide (signedNat negative n < 0) = negative := by
    cases negative with
    | false => exact decide_eq_false (Int.not_lt.2 (Int.natCast_nonneg n))
    | true => exact decide_eq_true (Int.neg_neg_of_pos (Int.natCast_pos.2 hpos))
  have hsize : (signedNat negative n).natAbs = n := by
    cases negative with
    | false => exact Int.natAbs_natCast n
    | true => exact (Int.natAbs_neg n).trans (Int.natAbs_natCast n)
  rw [ofInt, hsign, hsize]
  apply nearest_of_contains negative h hm hpos one_pos
  rwa [Nat.cast_one, div_one]

/-- Every double that is at most an integer in the interval of another, or at least that, is so for the other as well. -/
theorem keeps_order_of_contains (h : IsDouble m q) (hm : 0 < m) {n : Nat}
    (hn : (interval m q).Contains (q - 2) (n : ℚ)) {k : Nat} {s : Int} (hk : IsDouble k s) :
    ((k : ℚ) * 2 ^ s ≤ n → (k : ℚ) * 2 ^ s ≤ m * 2 ^ q) ∧ ((n : ℚ) ≤ k * 2 ^ s → (m : ℚ) * 2 ^ q ≤ k * 2 ^ s) := by
  have hpos := pos_of_contains hm hn
  have hquotient : (n : ℚ) = n / (1 : Nat) := by rw [Nat.cast_one, div_one]
  rw [hquotient] at hn ⊢
  obtain hround | ⟨rfl, -, hround⟩ := nearest?_of_contains h hm hpos Nat.one_pos hn
  · exact nearest?_keeps_order hpos Nat.one_pos hround hk
  · -- the least mantissa is written as the greatest one with half the unit
    have hunit : ((2 ^ 53 : Nat) : ℚ) * 2 ^ (q - 1) = (2 ^ 52 : Nat) * 2 ^ q := by
      rw [zpow_sub₀ two_ne_zero]
      push_cast
      ring
    rw [← hunit]
    exact nearest?_keeps_order hpos Nat.one_pos hround hk

/-- A double with an integer in its interval is whole. -/
theorem whole_of_contains (h : IsDouble m q) (hm : 0 < m) {n : Nat} (hn : (interval m q).Contains (q - 2) (n : ℚ)) :
    ∃ k : Nat, (m : ℚ) * 2 ^ q = k := by
  by_cases hq : 0 ≤ q
  · refine ⟨m * 2 ^ q.toNat, ?_⟩
    push_cast
    rw [← zpow_natCast, Int.toNat_of_nonneg hq]
  · -- the integer has so few bits that it is rounded to itself
    have hle : n ≤ 2 ^ 53 := by
      have hhigh : ((interval m q).high : ℚ) ≤ 2 ^ 55 := by
        have hlt := h.lt
        have : (interval m q).high ≤ 2 ^ 55 := by
          simp only [interval]
          omega
        exact_mod_cast this
      have hunit : (2 : ℚ) ^ (q - 2) ≤ 2 ^ (-2 : Int) := zpow_le_zpow_right₀ one_le_two (by omega)
      have : (n : ℚ) ≤ 2 ^ 53 :=
        calc (n : ℚ) ≤ (interval m q).high * 2 ^ (q - 2) := hn.le_high
          _ ≤ 2 ^ 55 * 2 ^ (-2 : Int) := by gcongr
          _ = 2 ^ 53 := by norm_num
      exact_mod_cast this
    have hvalue := value?_ofInt_of_le (i := n) hle
    rw [show ofInt n = assemble false m q from ofInt_of_contains false h hm hn,
      value?_of_parts (parts_assemble false h)] at hvalue
    exact ⟨n, Option.some.inj hvalue⟩

/-- A decimal whose digits end at the units or before them is a natural number. -/
theorem value_of_exponent_nonneg {d : Decimal} (h : 0 ≤ d.exponent) :
    d.value = (d.digits * 10 ^ d.exponent.toNat : Nat) := by
  rw [Decimal.value]
  push_cast
  rw [← zpow_natCast, Int.toNat_of_nonneg h]

/-- **The shortest decimal of a double has no fraction if the double is whole, and has one if it is not.** -/
theorem exponent_shortest_nonneg_iff (tie : Tie) (h : IsDouble m q) (hm : 0 < m) :
    0 ≤ (shortest tie m q).exponent ↔ ∃ n : Nat, (m : ℚ) * 2 ^ q = n := by
  constructor
  · intro hexponent
    exact whole_of_contains h hm (value_of_exponent_nonneg hexponent ▸ shortest_contains tie h hm)
  · -- the double stands on the grid of the integers, so the search ends there or before
    rintro ⟨n, hn⟩
    have hone : 1 ≤ (m : ℚ) * 2 ^ q := by
      have hpos : (0 : ℚ) < m * 2 ^ q := mul_pos (by exact_mod_cast hm) (two_zpow_pos q)
      rw [hn] at hpos ⊢
      exact_mod_cast hpos
    obtain ⟨c, hc⟩ := exists_nearestOnGrid_of_point tie hm (k := 0) (n := n) (by rw [hn, zpow_zero, mul_one])
    rw [shortest, if_neg (by omega)]
    exact (le_exponent_searchGrids hc 17 _ (leadingExponent_nonneg hone)).trans (le_exponent_normalize 20 _)

/-- The shortest decimal of a whole double is an integer that is rounded to the double. -/
theorem ofInt_shortest (negative : Bool) (h : IsDouble m q) (hm : 0 < m)
    (hexponent : 0 ≤ (shortest .upward m q).exponent) :
    ofInt (signedNat negative ((shortest .upward m q).digits * 10 ^ (shortest .upward m q).exponent.toNat)) =
      assemble negative m q :=
  ofInt_of_contains negative h hm (value_of_exponent_nonneg hexponent ▸ shortest_contains .upward h hm)

theorem fits_signedNat (negative : Bool) {n : Nat} (h : n < 2 ^ 63) : Fits (signedNat negative n) := by
  unfold Fits signedNat
  cases negative <;> simp only [Bool.false_eq_true, if_true, if_false] <;> omega

theorem not_fits_signedNat (negative : Bool) {n : Nat} (h : 2 ^ 63 < n) : ¬Fits (signedNat negative n) := by
  unfold Fits signedNat
  cases negative <;> simp only [Bool.false_eq_true, if_true, if_false] <;> omega

/-- A double below `2 ^ 63` that is whole is written as an integer that fits into 64 bits, whatever its sign, and no other
is. -/
theorem fits_shortest_iff (negative : Bool) (h : IsDouble m q) (hm : 0 < m)
    (hexponent : 0 ≤ (shortest .upward m q).exponent) :
    Fits (signedNat negative ((shortest .upward m q).digits * 10 ^ (shortest .upward m q).exponent.toNat)) ↔
      (m : ℚ) * 2 ^ q < 2 ^ 63 := by
  have hbound : IsDouble (2 ^ 52) 11 := ⟨by norm_num, by decide, by decide, fun _ => le_rfl⟩
  have hboundValue : ((2 ^ 52 : Nat) : ℚ) * 2 ^ (11 : Int) = 2 ^ 63 := by norm_num
  have hcontains := shortest_contains .upward h hm
  rw [value_of_exponent_nonneg hexponent] at hcontains
  obtain ⟨hlow, hhigh⟩ := keeps_order_of_contains h hm hcontains hbound
  rw [hboundValue] at hlow hhigh
  obtain hlt | heq | hgt := lt_trichotomy ((m : ℚ) * 2 ^ q) (2 ^ 63)
  · refine iff_of_true (fits_signedNat negative ?_) hlt
    by_contra hle
    exact absurd (hlow (by exact_mod_cast not_lt.1 hle)) (not_le.2 hlt)
  · -- the double at the bound itself is written with a greater number
    obtain ⟨rfl, rfl⟩ := h.eq_of_value_eq hbound (heq.trans hboundValue.symm)
    have hshortest : shortest .upward (2 ^ 52) 11 = { digits := 9223372036854776, exponent := 3 } := by decide +kernel
    rw [hshortest]
    exact iff_of_false (not_fits_signedNat negative (by decide)) heq.not_lt
  · refine iff_of_false (not_fits_signedNat negative ?_) (not_lt.2 hgt.le)
    by_contra hle
    exact absurd (hhigh (by exact_mod_cast not_lt.1 hle)) (not_le.2 hgt)

end SqlFormula.Number
