import Mathlib
import SqlFormula.Number.Shortest
import SqlFormula.Proofs.Number.Binary64

/-!
# Rounding to doubles

Every number in the interval around a double is rounded to that double.

## Main definitions

- `Interval.Contains` — the numbers of an interval

## Main statements

- `ratioLog2_spec` — the power of two at which a quotient lies
- `nearestNat_eq` — the whole number nearest to a quotient
- `nearest_of_contains` — a quotient in the interval around a double rounds to it
-/

namespace SqlFormula.Number

/-- A number lies between the ends of an interval, which are given in units of `2 ^ e`. -/
def Interval.Contains (i : Interval) (e : Int) (r : ℚ) : Prop :=
  (i.low * (2 : ℚ) ^ e < r ∨ i.closed = true ∧ i.low * (2 : ℚ) ^ e = r) ∧
    (r < i.high * (2 : ℚ) ^ e ∨ i.closed = true ∧ r = i.high * (2 : ℚ) ^ e)

theorem two_zpow_pos (e : Int) : (0 : ℚ) < (2 : ℚ) ^ e := by
  positivity

theorem two_zpow_add (k : Nat) (e : Int) : (2 : ℚ) ^ ((k : Int) + e) = 2 ^ k * 2 ^ e := by
  rw [zpow_add₀ two_ne_zero, zpow_natCast]

theorem Interval.Contains.low_le {i : Interval} {e : Int} {r : ℚ} (h : i.Contains e r) :
    i.low * (2 : ℚ) ^ e ≤ r :=
  h.1.elim le_of_lt fun h => le_of_eq h.2

theorem Interval.Contains.le_high {i : Interval} {e : Int} {r : ℚ} (h : i.Contains e r) :
    r ≤ i.high * (2 : ℚ) ^ e :=
  h.2.elim le_of_lt fun h => le_of_eq h.2

/-- Away from an even mantissa the ends do not belong to the interval. -/
theorem Interval.Contains.strict {i : Interval} {e : Int} {r : ℚ} (h : i.Contains e r)
    (hopen : i.closed = false) : i.low * (2 : ℚ) ^ e < r ∧ r < i.high * (2 : ℚ) ^ e := by
  simpa [Interval.Contains, hopen] using h

/-! ### Whole numbers nearest to a quotient -/

/-- A whole number within half a unit of a quotient is the nearest one; at exactly half a unit it has to be
even. -/
theorem nearestNat_eq {n d m : Nat} (hlow : 2 * (m * d) ≤ 2 * n + d) (hhigh : 2 * n ≤ 2 * (m * d) + d)
    (hd : 0 < d) (htie : m % 2 = 0 ∨ (2 * (m * d) ≠ 2 * n + d ∧ 2 * n ≠ 2 * (m * d) + d)) :
    nearestNat n d = m := by
  have hdiv := Nat.div_add_mod n d
  have hmod := Nat.mod_lt n hd
  simp only [nearestNat]
  generalize n / d = b at hdiv ⊢
  generalize n % d = r at hdiv hmod ⊢
  have hlt : m < b + 2 := by
    by_contra hge
    have := Nat.mul_le_mul_right d (show b + 2 ≤ m by omega)
    rw [Nat.add_mul, Nat.mul_comm b d] at this
    omega
  have hle : b ≤ m := by
    by_contra hgt
    have := Nat.mul_le_mul_right d (show m + 1 ≤ b by omega)
    rw [Nat.add_mul, Nat.mul_comm b d] at this
    omega
  -- the quotient is rounded down or up
  obtain rfl | rfl : m = b ∨ m = b + 1 := by omega
  · rw [Nat.mul_comm m d] at *
    split_ifs <;> omega
  · rw [Nat.add_mul, Nat.mul_comm b d] at *
    split_ifs <;> omega

/-- The nearest multiple of a power of two, for a number within half a unit of `m · 2 ^ q`. -/
theorem nearestNat_scaled {num den m : Nat} {q : Int} (hden : 0 < den)
    (hlow : ((m : ℚ) - 1 / 2) * 2 ^ q ≤ num / den) (hhigh : (num : ℚ) / den ≤ (m + 1 / 2) * 2 ^ q)
    (htie : m % 2 = 0 ∨ (((m : ℚ) - 1 / 2) * 2 ^ q < num / den ∧ (num : ℚ) / den < (m + 1 / 2) * 2 ^ q)) :
    (if 0 ≤ q then nearestNat num (den * Nat.pow 2 q.toNat)
      else nearestNat (num * Nat.pow 2 (-q).toNat) den) = m := by
  have hden' : (0 : ℚ) < den := by exact_mod_cast hden
  simp only [Nat.pow_eq]
  -- the power stands below or above the bar by its sign; the bounds are cleared of fractions both times
  by_cases hq : 0 ≤ q
  · obtain ⟨k, rfl⟩ := Int.eq_ofNat_of_zero_le hq
    rw [if_pos hq, Int.toNat_natCast]
    rw [zpow_natCast] at *
    rw [le_div_iff₀ hden', div_le_iff₀ hden', lt_div_iff₀ hden', div_lt_iff₀ hden'] at *
    refine nearestNat_eq ?_ ?_ (by positivity) (htie.imp_right fun ⟨h1, h2⟩ => ⟨fun h => ?_, fun h => ?_⟩)
    · have : (2 * (m * (den * 2 ^ k)) : ℚ) ≤ 2 * num + den * 2 ^ k := by linarith
      exact_mod_cast this
    · have : (2 * num : ℚ) ≤ 2 * (m * (den * 2 ^ k)) + den * 2 ^ k := by linarith
      exact_mod_cast this
    · have : (2 * (m * (den * 2 ^ k)) : ℚ) = 2 * num + den * 2 ^ k := by exact_mod_cast h
      linarith
    · have : (2 * num : ℚ) = 2 * (m * (den * 2 ^ k)) + den * 2 ^ k := by exact_mod_cast h
      linarith
  · obtain ⟨k, hk⟩ : ∃ k : Nat, q = -(k : Int) := ⟨(-q).toNat, by omega⟩
    subst hk
    have hpow : (0 : ℚ) < 2 ^ k := by positivity
    rw [if_neg hq, neg_neg, Int.toNat_natCast]
    simp only [zpow_neg, zpow_natCast, ← div_eq_mul_inv] at *
    rw [div_le_div_iff₀ hpow hden', div_le_div_iff₀ hden' hpow, div_lt_div_iff₀ hpow hden',
      div_lt_div_iff₀ hden' hpow] at *
    refine nearestNat_eq ?_ ?_ hden (htie.imp_right fun ⟨h1, h2⟩ => ⟨fun h => ?_, fun h => ?_⟩)
    · have : (2 * (m * den) : ℚ) ≤ 2 * (num * 2 ^ k) + den := by linarith
      exact_mod_cast this
    · have : (2 * (num * 2 ^ k) : ℚ) ≤ 2 * (m * den) + den := by linarith
      exact_mod_cast this
    · have : (2 * (m * den) : ℚ) = 2 * (num * 2 ^ k) + den := by exact_mod_cast h
      linarith
    · have : (2 * (num * 2 ^ k) : ℚ) = 2 * (m * den) + den := by exact_mod_cast h
      linarith

/-! ### The power of two at which a quotient lies -/

theorem two_pow_log2_le {n : Nat} (hn : 0 < n) :
    (2 : ℚ) ^ (n.log2 : Int) ≤ n ∧ (n : ℚ) < 2 ^ ((n.log2 : Int) + 1) := by
  constructor
  · rw [zpow_natCast]
    exact_mod_cast Nat.log2_self_le (by omega)
  · rw [← Nat.cast_succ, zpow_natCast]
    exact_mod_cast Nat.lt_log2_self

/-- The quotient lies at or above this power of two, and below the next one. -/
theorem ratioLog2_spec {num den : Nat} (hnum : 0 < num) (hden : 0 < den) :
    (2 : ℚ) ^ ratioLog2 num den ≤ num / den ∧ (num : ℚ) / den < 2 ^ (ratioLog2 num den + 1) := by
  have hden' : (0 : ℚ) < den := by exact_mod_cast hden
  obtain ⟨hnumLow, hnumHigh⟩ := two_pow_log2_le hnum
  obtain ⟨hdenLow, hdenHigh⟩ := two_pow_log2_le hden
  have hpow : (2 : ℚ) ≠ 0 := by norm_num
  generalize hguess : (num.log2 : Int) - den.log2 = guess
  -- the guess is the power itself or the one after it
  have hupper : (num : ℚ) / den < 2 ^ (guess + 1) := by
    rw [div_lt_iff₀ hden']
    calc (num : ℚ) < 2 ^ ((num.log2 : Int) + 1) := hnumHigh
      _ = 2 ^ (guess + 1) * 2 ^ (den.log2 : Int) := by rw [← zpow_add₀ hpow]; congr 1; omega
      _ ≤ 2 ^ (guess + 1) * den := by gcongr
  have hlower : (2 : ℚ) ^ (guess - 1) ≤ num / den := by
    rw [le_div_iff₀ hden']
    calc (2 : ℚ) ^ (guess - 1) * den ≤ 2 ^ (guess - 1) * 2 ^ ((den.log2 : Int) + 1) := by gcongr
      _ = 2 ^ (num.log2 : Int) := by rw [← zpow_add₀ hpow]; congr 1; omega
      _ ≤ num := hnumLow
  have hreached : (if 0 ≤ guess then den * Nat.pow 2 guess.toNat ≤ num
      else den ≤ num * Nat.pow 2 (-guess).toNat) ↔ (2 : ℚ) ^ guess ≤ num / den := by
    rw [le_div_iff₀ hden']
    simp only [Nat.pow_eq]
    by_cases hg : 0 ≤ guess
    · obtain ⟨k, rfl⟩ := Int.eq_ofNat_of_zero_le hg
      rw [if_pos hg, Int.toNat_natCast, zpow_natCast, mul_comm (2 ^ k : ℚ)]
      exact_mod_cast Iff.rfl
    · obtain ⟨k, rfl⟩ : ∃ k : Nat, guess = -(k : Int) := ⟨(-guess).toNat, by omega⟩
      have hk : (0 : ℚ) < 2 ^ k := by positivity
      rw [if_neg hg, neg_neg, Int.toNat_natCast, zpow_neg, zpow_natCast, ← div_eq_inv_mul,
        div_le_iff₀ hk]
      exact_mod_cast Iff.rfl
  simp only [ratioLog2, hguess]
  by_cases h : (2 : ℚ) ^ guess ≤ num / den
  · rw [if_pos (hreached.2 h)]
    exact ⟨h, hupper⟩
  · rw [if_neg (mt hreached.1 h), sub_add_cancel]
    exact ⟨hlower, not_le.1 h⟩

section

variable {num den : Nat} {e : Int}

theorem ratioLog2_lt (hnum : 0 < num) (hden : 0 < den) (h : (num : ℚ) / den < 2 ^ e) : ratioLog2 num den < e := by
  rw [← zpow_lt_zpow_iff_right₀ (one_lt_two (α := ℚ))]
  exact (ratioLog2_spec hnum hden).1.trans_lt h

theorem le_ratioLog2 (hnum : 0 < num) (hden : 0 < den) (h : (2 : ℚ) ^ e ≤ num / den) : e ≤ ratioLog2 num den := by
  rw [← Int.lt_add_one_iff, ← zpow_lt_zpow_iff_right₀ (one_lt_two (α := ℚ))]
  exact h.trans_lt (ratioLog2_spec hnum hden).2

end

/-! ### Doubles nearest to a quotient -/

section

variable {m num den : Nat} {q : Int}

/-- The interval of a double reaches half a unit of its last place to both sides, but only a quarter of one
below a power of two; the ends belong to it if the mantissa is even. -/
theorem Interval.Contains.bounds {r : ℚ} (hm : 0 < m) (h : (interval m q).Contains (q - 2) r) :
    (((m : ℚ) - 1 / 2) * 2 ^ q ≤ r ∧ r ≤ (m + 1 / 2) * 2 ^ q) ∧
      (m % 2 = 0 ∨ (((m : ℚ) - 1 / 2) * 2 ^ q < r ∧ r < (m + 1 / 2) * 2 ^ q)) ∧
      (m = 2 ^ 52 → leastExponent < q → ((m : ℚ) - 1 / 4) * 2 ^ q ≤ r) := by
  have hpos := two_zpow_pos q
  have hunit : (2 : ℚ) ^ (q - 2) = 2 ^ q / 4 := by
    rw [zpow_sub₀ (by norm_num)]
    norm_num
  have hlow : (4 * m - 2 : ℚ) ≤ (interval m q).low := by
    have h1 : ((4 * m - 1 : Nat) : ℚ) = 4 * m - 1 := by push_cast [show 1 ≤ 4 * m by omega]; ring
    have h2 : ((4 * m - 2 : Nat) : ℚ) = 4 * m - 2 := by push_cast [show 2 ≤ 4 * m by omega]; ring
    simp only [interval]
    split_ifs
    · rw [h1]; linarith
    · rw [h2]
  have hhigh : ((interval m q).high : ℚ) = 4 * m + 2 := by simp [interval]
  have hl := h.low_le
  have hh := h.le_high
  rw [hunit] at hl hh
  rw [hhigh] at hh
  refine ⟨⟨by nlinarith, by linarith⟩, ?_, fun h52 hq => ?_⟩
  · by_cases heven : m % 2 = 0
    · exact .inl heven
    · have hs := h.strict (decide_eq_false heven)
      rw [hunit, hhigh] at hs
      exact .inr ⟨by nlinarith [hs.1], by linarith [hs.2]⟩
  · have hquarter : ((interval m q).low : ℚ) = 4 * m - 1 := by
      simp only [interval, Nat.pow_eq, h52, hq, and_self, if_true]
      norm_num
    rw [hquarter] at hl
    linarith

/-- The exponent to which a number in the interval of a double is rounded: that of the double, or the one before
it if the number is below a power of two. -/
theorem max_ratioLog2 (h : IsDouble m q) (hm : 0 < m) (hnum : 0 < num) (hden : 0 < den)
    (hr : (interval m q).Contains (q - 2) (num / den)) :
    max (ratioLog2 num den - 52) leastExponent = q ∨
      m = 2 ^ 52 ∧ leastExponent < q ∧ max (ratioLog2 num den - 52) leastExponent = q - 1 ∧
        (num : ℚ) / den < 2 ^ 52 * 2 ^ q := by
  obtain ⟨⟨hlow, hhigh⟩, -, -⟩ := hr.bounds hm
  have hleast := h.least_le
  have hpos := two_zpow_pos q
  have hm53 : (m : ℚ) + 1 ≤ 2 ^ 53 := by exact_mod_cast h.lt
  -- a mantissa of 53 bits bounds the quotient from above, and one of no fewer from below
  have hupper : ratioLog2 num den < ((53 : Nat) : Int) + q := by
    refine ratioLog2_lt hnum hden ?_
    rw [two_zpow_add]
    calc (num : ℚ) / den ≤ (m + 1 / 2) * 2 ^ q := hhigh
      _ < 2 ^ 53 * 2 ^ q := by gcongr; linarith
  by_cases hq : q = leastExponent
  · left
    omega
  have hm52 : (2 ^ 52 : ℚ) ≤ m := by exact_mod_cast h.full hq
  have hlower : ((51 : Nat) : Int) + q ≤ ratioLog2 num den := by
    refine le_ratioLog2 hnum hden ?_
    rw [two_zpow_add]
    calc (2 ^ 51 : ℚ) * 2 ^ q ≤ (m - 1 / 2) * 2 ^ q := by gcongr; linarith
      _ ≤ num / den := hlow
  by_cases hsame : ratioLog2 num den - 52 = q
  · left
    omega
  have hbelow : (num : ℚ) / den < 2 ^ 52 * 2 ^ q := by
    rw [← two_zpow_add 52, show ((52 : Nat) : Int) + q = ratioLog2 num den + 1 by omega]
    exact (ratioLog2_spec hnum hden).2
  refine .inr ⟨?_, by omega, by omega, hbelow⟩
  by_contra hne
  have hm' : (2 ^ 52 + 1 : ℚ) ≤ m := by
    have := h.full hq
    exact_mod_cast show 2 ^ 52 + 1 ≤ m by omega
  nlinarith

/-- A quotient in the interval of a double is rounded to the double. Below a power of two its mantissa
has one bit too many. -/
theorem nearest?_of_contains (h : IsDouble m q) (hm : 0 < m) (hnum : 0 < num) (hden : 0 < den)
    (hr : (interval m q).Contains (q - 2) (num / den)) :
    double.nearest? num den = some (m, q) ∨
      m = 2 ^ 52 ∧ leastExponent < q ∧ double.nearest? num den = some (2 ^ 53, q - 1) := by
  obtain ⟨⟨hlow, hhigh⟩, htie, hquarter⟩ := hr.bounds hm
  have hbits : ((double.bits - 1 : Nat) : Int) = 52 := rfl
  have hleast : double.least = leastExponent := rfl
  have hgreatest : double.greatest = 971 := rfl
  have hmax := h.le
  simp only [Format.nearest?, if_neg (show ¬num = 0 by omega), hbits, hleast, hgreatest]
  obtain hq | ⟨h52, hq0, hq, hbelow⟩ := max_ratioLog2 h hm hnum hden hr
  · left
    rw [hq, nearestNat_scaled hden hlow hhigh htie, if_neg]
    rintro (hover | ⟨-, hfull⟩)
    · omega
    · exact absurd hfull (Nat.ne_of_lt h.lt)
  · -- below a power of two the unit is half as large, and `2 ^ 53` of them make up the double
    right
    have hprev : (2 : ℚ) ^ q = 2 * 2 ^ (q - 1) := by
      rw [zpow_sub₀ (by norm_num), zpow_one]
      ring
    have hquarter := hquarter h52 hq0
    rw [h52, hprev] at hquarter
    rw [hprev] at hbelow
    have hpos := two_zpow_pos (q - 1)
    have hscaled := @nearestNat_scaled num den (2 ^ 53) (q - 1) hden
      (by push_cast at hquarter ⊢; linarith) (by push_cast; linarith) (.inl rfl)
    refine ⟨h52, hq0, ?_⟩
    rw [hq, hscaled, if_neg]
    omega

/-- **A quotient in the interval of a double is rounded to that double.** -/
theorem nearest_of_contains (negative : Bool) (h : IsDouble m q) (hm : 0 < m) (hnum : 0 < num) (hden : 0 < den)
    (hr : (interval m q).Contains (q - 2) (num / den)) :
    nearest double negative num den = assemble negative m q := by
  obtain hn | ⟨rfl, hq, hn⟩ := nearest?_of_contains h hm hnum hden hr
  · simp only [nearest, hn]
  · simp only [nearest, hn]
    exact assemble_two_pow_53 negative hq

end

end SqlFormula.Number
