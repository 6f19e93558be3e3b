import SqlFormula.Proofs.Number.Rounding

/-!
# The shortest decimal lies in the interval

The search over the decimal grids always finds a point in the interval around a double, so the decimal that is
written is rounded to the double again.

## Main definitions

- `Decimal.value` — the number that a decimal stands for

## Main statements

- `nearestOnGrid_contains` — a point that is found lies in the interval
- `exists_nearestOnGrid` — a grid that is fine enough has one
- `shortest_contains` — the shortest decimal lies in the interval
-/

namespace SqlFormula.Number

/-- The number that a decimal stands for. -/
def Decimal.value (d : Decimal) : ℚ :=
  d.digits * (10 : ℚ) ^ d.exponent

/-! ### The common unit -/

/-- The two factors of the common unit stand in the ratio of the two powers. -/
theorem commonUnit_spec (e k : Int) :
    ∃ unit : ℚ, 0 < unit ∧ ((commonUnit e k).1 : ℚ) = 2 ^ e * unit ∧ ((commonUnit e k).2 : ℚ) = 10 ^ k * unit := by
  have hpower (b : ℚ) (hb : b ≠ 0) (i : Int) : b ^ i * b ^ (-i).toNat = b ^ i.toNat := by
    rw [← zpow_natCast, ← zpow_natCast, ← zpow_add₀ hb]
    congr 1
    omega
  have hzero {i : Int} (hi : 0 ≤ i) : (-i).toNat = 0 := by omega
  have hzero' {i : Int} (hi : ¬0 ≤ i) : i.toNat = 0 := by omega
  refine ⟨(2 : ℚ) ^ (-e).toNat * 10 ^ (-k).toNat, by positivity, ?_, ?_⟩
  · rw [← mul_assoc, hpower 2 (by norm_num)]
    simp only [commonUnit, Nat.pow_eq]
    split_ifs with he hk hk
    · simp [hzero hk]
    · simp
    · simp [hzero hk, hzero' he]
    · simp [hzero' he]
  · rw [mul_left_comm, hpower 10 (by norm_num)]
    simp only [commonUnit, Nat.pow_eq]
    split_ifs with he hk hk
    · simp [hzero he]
    · simp [hzero he, hzero' hk]
    · simp
    · simp [hzero' hk]

theorem commonUnit_pos (e k : Int) : 0 < (commonUnit e k).1 ∧ 0 < (commonUnit e k).2 := by
  obtain ⟨unit, hunit, hbinary, hdecimal⟩ := commonUnit_spec e k
  have h1 : (0 : ℚ) < (commonUnit e k).1 := by rw [hbinary]; positivity
  have h2 : (0 : ℚ) < (commonUnit e k).2 := by rw [hdecimal]; positivity
  exact ⟨by exact_mod_cast h1, by exact_mod_cast h2⟩

theorem binary_lt_decimal_iff (e k : Int) (a c : Nat) :
    a * (commonUnit e k).1 < c * (commonUnit e k).2 ↔ (a : ℚ) * 2 ^ e < c * 10 ^ k := by
  obtain ⟨unit, hunit, hbinary, hdecimal⟩ := commonUnit_spec e k
  rw [← Nat.cast_lt (α := ℚ)]
  push_cast
  rw [hbinary, hdecimal, ← mul_assoc, ← mul_assoc, mul_lt_mul_iff_left₀ hunit]

theorem decimal_lt_binary_iff (e k : Int) (a c : Nat) :
    c * (commonUnit e k).2 < a * (commonUnit e k).1 ↔ (c : ℚ) * 10 ^ k < a * 2 ^ e := by
  obtain ⟨unit, hunit, hbinary, hdecimal⟩ := commonUnit_spec e k
  rw [← Nat.cast_lt (α := ℚ)]
  push_cast
  rw [hbinary, hdecimal, ← mul_assoc, ← mul_assoc, mul_lt_mul_iff_left₀ hunit]

/-! ### Points of a grid -/

/-- The comparison in the common unit decides whether a point of a grid lies in an interval. -/
theorem inside_iff (i : Interval) (e k : Int) (c : Nat) :
    (if i.closed then
        decide (i.low * (commonUnit e k).1 ≤ c * (commonUnit e k).2) &&
          decide (c * (commonUnit e k).2 ≤ i.high * (commonUnit e k).1)
      else
        decide (i.low * (commonUnit e k).1 < c * (commonUnit e k).2) &&
          decide (c * (commonUnit e k).2 < i.high * (commonUnit e k).1)) = true ↔
      i.Contains e (c * 10 ^ k) := by
  have hlow := binary_lt_decimal_iff e k i.low c
  have hhigh := decimal_lt_binary_iff e k i.high c
  have hlow' : i.low * (commonUnit e k).1 ≤ c * (commonUnit e k).2 ↔ i.low * (2 : ℚ) ^ e ≤ c * 10 ^ k := by
    rw [← not_lt, decimal_lt_binary_iff, not_lt]
  have hhigh' : c * (commonUnit e k).2 ≤ i.high * (commonUnit e k).1 ↔ c * (10 : ℚ) ^ k ≤ i.high * 2 ^ e := by
    rw [← not_lt, binary_lt_decimal_iff, not_lt]
  cases hclosed : i.closed
  · simp [Interval.Contains, hclosed, hlow, hhigh]
  · simp [Interval.Contains, hclosed, hlow', hhigh', le_iff_lt_or_eq]

theorem nearestOnGrid_contains {tie : Tie} {i : Interval} {e k : Int} {c : Nat}
    (h : nearestOnGrid tie i e k = some c) : i.Contains e (c * 10 ^ k) := by
  simp only [nearestOnGrid] at h
  split at h
  · cases h
  · next hbelow _ =>
    obtain rfl := Option.some.inj h
    exact (inside_iff i e k _).1 hbelow
  · next _ habove =>
    obtain rfl := Option.some.inj h
    exact (inside_iff i e k _).1 habove
  · next hbelow habove =>
    -- whichever of the two neighbours is taken, both lie in the interval
    have hc : c = i.middle * (commonUnit e k).1 / (commonUnit e k).2 ∨
        c = i.middle * (commonUnit e k).1 / (commonUnit e k).2 + 1 := by
      rw [Option.some.injEq] at h
      cases tie <;> grind
    obtain rfl | rfl := hc
    · exact (inside_iff i e k _).1 hbelow
    · exact (inside_iff i e k _).1 habove

/-- A point strictly between the ends is inside, whether the ends belong to the interval or not. -/
theorem inside_of_lt (closed : Bool) {low x high : Nat} (hlow : low < x) (hhigh : x < high) :
    (if closed then decide (low ≤ x) && decide (x ≤ high) else decide (low < x) && decide (x < high)) = true := by
  cases closed <;> simp [hlow, hhigh, hlow.le, hhigh.le]

/-- Something is chosen as soon as one of two neighbours is inside. -/
theorem exists_of_inside {below above : Bool} {a b c : Nat} (h : below = true ∨ above = true) :
    ∃ n, (match below, above with
      | false, false => none
      | true, false => some a
      | false, true => some b
      | true, true => some c) = some n := by
  obtain rfl | rfl := h
  · cases above
    · exact ⟨a, rfl⟩
    · exact ⟨c, rfl⟩
  · cases below
    · exact ⟨b, rfl⟩
    · exact ⟨c, rfl⟩

/-- A grid whose points are no more than half a unit of the last place apart has a point in the interval: the
double itself, or the next point above it. -/
theorem exists_nearestOnGrid (tie : Tie) {m : Nat} {q k : Int} (hm : 0 < m)
    (hk : (10 : ℚ) ^ k ≤ 2 * 2 ^ (q - 2)) : ∃ c, nearestOnGrid tie (interval m q) (q - 2) k = some c := by
  obtain ⟨hbinary, hdecimal⟩ := commonUnit_pos (q - 2) k
  have hfine : (commonUnit (q - 2) k).2 ≤ 2 * (commonUnit (q - 2) k).1 := by
    obtain ⟨unit, hunit, h1, h2⟩ := commonUnit_spec (q - 2) k
    rw [← Nat.cast_le (α := ℚ)]
    push_cast
    rw [h1, h2, ← mul_assoc]
    gcongr
  have hhigh : (interval m q).high = 4 * m + 2 := rfl
  have hmiddle : (interval m q).middle = 4 * m := rfl
  simp only [nearestOnGrid, hhigh, hmiddle]
  generalize (commonUnit (q - 2) k).1 = binary at *
  generalize (commonUnit (q - 2) k).2 = decimal at *
  have hlow : (interval m q).low * binary < 4 * m * binary := by
    refine Nat.mul_lt_mul_of_pos_right ?_ hbinary
    simp only [interval]
    split_ifs <;> omega
  have hdiv := Nat.div_add_mod' (4 * m * binary) decimal
  have hmod := Nat.mod_lt (4 * m * binary) hdecimal
  have habove : (4 * m * binary / decimal + 1) * decimal =
      4 * m * binary / decimal * decimal + decimal := by ring
  have htop : (4 * m + 2) * binary = 4 * m * binary + 2 * binary := by ring
  -- if the double is no point of the grid itself, the next one above it is near enough
  by_cases hpoint : 4 * m * binary % decimal = 0
  · have hbelow := @inside_of_lt (interval m q).closed ((interval m q).low * binary)
      (4 * m * binary / decimal * decimal) ((4 * m + 2) * binary) (by omega) (by omega)
    exact exists_of_inside (.inl hbelow)
  · have habove := @inside_of_lt (interval m q).closed ((interval m q).low * binary)
      ((4 * m * binary / decimal + 1) * decimal) ((4 * m + 2) * binary) (by omega) (by omega)
    exact exists_of_inside (.inr habove)

/-! ### The leading exponent -/

/-- The number of digits tells between which powers of ten a number lies. -/
theorem digitCount_spec {n : Nat} (hn : 0 < n) :
    (10 : ℚ) ^ ((digitCount n : Int) - 1) ≤ n ∧ (n : ℚ) < 10 ^ (digitCount n : Int) := by
  have hten : 1 < 10 := by decide
  have hpos : 0 < digitCount n := Nat.length_toDigits_pos
  obtain ⟨k, hk⟩ : ∃ k, digitCount n = k + 1 := ⟨digitCount n - 1, by omega⟩
  constructor
  · rw [hk, Nat.cast_succ, add_sub_cancel_right, zpow_natCast]
    have hlow : 10 ^ k ≤ n := by
      by_contra hlt
      cases k with
      | zero => omega
      | succ k =>
        have := (Nat.length_toDigits_le_iff hten (Nat.succ_pos k)).2 (not_le.1 hlt)
        simp only [digitCount] at hk
        omega
    exact_mod_cast hlow
  · rw [zpow_natCast]
    exact_mod_cast (Nat.length_toDigits_le_iff hten hpos).1 le_rfl

theorem two_zpow_le_ten_zpow (k : Nat) : (2 : ℚ) ^ (3 * (k : Int)) ≤ 10 ^ (k : Int) := by
  rw [zpow_mul, zpow_natCast, zpow_natCast]
  exact pow_le_pow_left₀ (by norm_num) (by norm_num) k

/-- The leading exponent is counted at a large scale. The scale stays a name, since its digits are of no interest. -/
theorem exists_scale (m : Nat) (q : Int) :
    ∃ scale : Nat, (scale : ℚ) = 10 ^ (400 : Int) ∧ leadingExponent m q =
      (digitCount (if 0 ≤ q then m * (Nat.pow 2 q.toNat * scale) else m * scale / Nat.pow 2 (-q).toNat) : Int)
        - 1 - 400 := by
  have hcast {k : Nat} {e : Int} (h : (k : Int) = e) : ((Nat.pow 10 k : Nat) : ℚ) = 10 ^ e := by
    rw [Nat.pow_eq, Nat.cast_pow, Nat.cast_ofNat, ← h, zpow_natCast]
  refine ⟨_, hcast (k := 400) rfl, ?_⟩
  have hneg : ¬(0 : Int) ≤ -400 := by decide
  have hscale : (- -400 : Int).toNat = 400 := rfl
  by_cases hsign : 0 ≤ q
  · simp only [leadingExponent, commonUnit, if_pos hsign, if_neg hneg, hscale]
  · simp only [leadingExponent, commonUnit, if_neg hsign, if_neg hneg]

/-- The leading exponent is that of a power of ten not above the double. -/
theorem ten_zpow_leadingExponent_le {m : Nat} {q : Int} (hm : 0 < m) (hq : leastExponent ≤ q) :
    (10 : ℚ) ^ leadingExponent m q ≤ m * 2 ^ q := by
  obtain ⟨scale, hscale, hlead⟩ := exists_scale m q
  rw [hlead, zpow_sub₀ (by norm_num), ← hscale]
  have hscalePos : (0 : ℚ) < scale := by rw [hscale]; positivity
  rw [div_le_iff₀ hscalePos]
  simp only [Nat.pow_eq]
  have hpow := two_zpow_pos q
  split_ifs with hsign
  · have hvalue : ((m * (2 ^ q.toNat * scale) : Nat) : ℚ) = m * 2 ^ q * scale := by
      push_cast
      rw [← mul_assoc, ← zpow_natCast, Int.toNat_of_nonneg hsign]
    rw [← hvalue]
    refine (digitCount_spec ?_).1
    have : (0 : ℚ) < ((m * (2 ^ q.toNat * scale) : Nat) : ℚ) := by rw [hvalue]; positivity
    exact_mod_cast this
  · -- the quotient is rounded down, but the scale is large enough to keep it from zero
    have hinv : (2 : ℚ) ^ (-q).toNat * 2 ^ q = 1 := by
      rw [← zpow_natCast, ← zpow_add₀ (by norm_num), Int.toNat_of_nonneg (by omega), neg_add_cancel, zpow_zero]
    have hle : 2 ^ (-q).toNat ≤ m * scale := by
      have hmin := two_zpow_le_ten_zpow 400
      rw [Nat.cast_ofNat, ← hscale] at hmin
      have hexp : (2 : ℚ) ^ ((-q).toNat : Int) ≤ 2 ^ (3 * (400 : Int)) := by
        refine zpow_le_zpow_right₀ (by norm_num) ?_
        simp only [leastExponent] at hq
        omega
      have hscaled : scale ≤ m * scale := Nat.le_mul_of_pos_left scale hm
      refine le_trans ?_ hscaled
      rw [← Nat.cast_le (α := ℚ), Nat.cast_pow, Nat.cast_ofNat, ← zpow_natCast]
      exact hexp.trans hmin
    calc (10 : ℚ) ^ ((digitCount (m * scale / 2 ^ (-q).toNat) : Int) - 1)
        ≤ (m * scale / 2 ^ (-q).toNat : Nat) := (digitCount_spec (Nat.div_pos hle (by positivity))).1
      _ ≤ (m * scale : Nat) / (2 ^ (-q).toNat : Nat) := Nat.cast_div_le
      _ = m * 2 ^ q * scale := by
        push_cast
        rw [div_eq_iff (by positivity)]
        linear_combination (- (m : ℚ) * scale) * hinv

/-- The leading digit of a double that is at least 1 stands before the point. -/
theorem leadingExponent_nonneg {m : Nat} {q : Int} (hone : 1 ≤ (m : ℚ) * 2 ^ q) : 0 ≤ leadingExponent m q := by
  obtain ⟨scale, hscale, hlead⟩ := exists_scale m q
  have hscalePos : 0 < scale := by
    have : (0 : ℚ) < scale := by rw [hscale]; positivity
    exact_mod_cast this
  have hlarge {n : Nat} (hn : scale ≤ n) : 400 < (digitCount n : Int) := by
    obtain ⟨-, hlt⟩ := digitCount_spec (hscalePos.trans_le hn)
    have hn' : (scale : ℚ) ≤ n := by exact_mod_cast hn
    rw [hscale] at hn'
    exact (zpow_lt_zpow_iff_right₀ (by norm_num)).1 (hn'.trans_lt hlt)
  suffices h : scale ≤ if 0 ≤ q then m * (Nat.pow 2 q.toNat * scale) else m * scale / Nat.pow 2 (-q).toNat by
    have := hlarge h
    omega
  have hm : 0 < m := by
    by_contra hzero
    rw [show m = 0 by omega, Nat.cast_zero, zero_mul] at hone
    exact absurd hone (by norm_num)
  split_ifs with hq
  · rw [← Nat.mul_assoc]
    exact Nat.le_mul_of_pos_left scale (Nat.mul_pos hm (Nat.pow_pos (by decide)))
  · -- the mantissa is at least the power of two that it is divided by
    have hle : 2 ^ (-q).toNat ≤ m := by
      have hinv : (2 : ℚ) ^ q * 2 ^ (-q).toNat = 1 := by
        rw [← zpow_natCast, ← zpow_add₀ (by norm_num), Int.toNat_of_nonneg (by omega), add_neg_cancel, zpow_zero]
      have hpow : (0 : ℚ) < 2 ^ (-q).toNat := by positivity
      have : ((2 ^ (-q).toNat : Nat) : ℚ) ≤ m := by
        push_cast
        nlinarith
      exact_mod_cast this
    rw [Nat.pow_eq, Nat.le_div_iff_mul_le (by positivity), Nat.mul_comm]
    exact Nat.mul_le_mul_right scale hle

/-! ### The search -/

/-- The search ends with a point in the interval if the last grid is fine enough. -/
theorem searchGrids_contains (tie : Tie) {m : Nat} {q : Int} (hm : 0 < m) :
    ∀ (fuel : Nat) (k : Int), (10 : ℚ) ^ (k - fuel) ≤ 2 * 2 ^ (q - 2) →
      (interval m q).Contains (q - 2) (searchGrids tie (interval m q) (q - 2) fuel k).value := by
  -- by induction on the grids that are left, of which the last has a point in the interval
  intro fuel
  induction fuel with
  | zero =>
    intro k hk
    rw [Nat.cast_zero, sub_zero] at hk
    obtain ⟨c, hc⟩ := exists_nearestOnGrid tie hm hk
    simp only [searchGrids, hc, Option.getD_some]
    exact nearestOnGrid_contains hc
  | succ fuel ih =>
    intro k hk
    simp only [searchGrids]
    split
    · next c hc => exact nearestOnGrid_contains hc
    · refine ih (k - 1) ?_
      rw [show k - 1 - (fuel : Int) = k - (fuel + 1 : Nat) by push_cast; ring]
      exact hk

theorem Decimal.value_normalize (fuel : Nat) (d : Decimal) : (d.normalize fuel).value = d.value := by
  induction fuel generalizing d with
  | zero => rfl
  | succ fuel ih =>
    simp only [Decimal.normalize]
    split
    · next h =>
      rw [ih]
      have hdigits : (d.digits : ℚ) = (d.digits / 10 : Nat) * 10 := by
        exact_mod_cast (Nat.div_mul_cancel (Nat.dvd_of_mod_eq_zero h.2)).symm
      simp only [Decimal.value]
      rw [hdigits, zpow_add₀ (by norm_num), zpow_one]
      ring_nf
    · rfl

/-- **The shortest decimal of a double lies in its interval.** Seventeen digits are always enough. -/
theorem shortest_contains (tie : Tie) {m : Nat} {q : Int} (h : IsDouble m q) (hm : 0 < m) :
    (interval m q).Contains (q - 2) (shortest tie m q).value := by
  rw [shortest, if_neg (by omega), Decimal.value_normalize]
  refine searchGrids_contains tie hm 17 _ ?_
  have hlead := ten_zpow_leadingExponent_le hm h.least_le
  have hpow := two_zpow_pos q
  have hm53 : (m : ℚ) ≤ 2 ^ 53 := by exact_mod_cast h.lt.le
  rw [zpow_sub₀ (by norm_num), zpow_sub₀ (by norm_num), Nat.cast_ofNat, zpow_ofNat, zpow_ofNat,
    div_le_iff₀ (by norm_num)]
  -- seventeen places below the leading one, points lie at most half a unit apart
  calc (10 : ℚ) ^ leadingExponent m q ≤ m * 2 ^ q := hlead
    _ ≤ 2 ^ 53 * 2 ^ q := by gcongr
    _ ≤ 2 * (2 ^ q / 2 ^ 2) * 10 ^ 17 := by linarith

end SqlFormula.Number
