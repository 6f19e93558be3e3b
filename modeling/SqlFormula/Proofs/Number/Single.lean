import SqlFormula.Proofs.Number.Rounding

/-!
# Singles among doubles

A double that is the nearest single of some number is the nearest single of itself.

## Main definitions

- `IsSingle` — the mantissas and exponents of finite singles

## Main statements

- `parts_assemble` — a double that is put together comes apart the same way
- `nearest_single_cases` — the nearest single is an infinity or has such a mantissa and exponent
- `toSingle_toSingle`, `toSingle_nearest` — rounding to singles twice is rounding once
-/

namespace SqlFormula.Number

/-! ### Doubles from their bits -/

theorem toBits_ofBits {b : UInt64} (h : b.toNat / 2 ^ 52 % 2 ^ 11 ≠ 2047) : (Float.ofBits b).toBits = b := by
  have hvalid : Float.Model.Format.binary64.Valid b.toBitVec := by
    refine ⟨fun hexponent => absurd ?_ h⟩
    have hnat := congrArg BitVec.toNat hexponent
    rw [Float.Model.UnpackedFloat.unpackExponent_def, BitVec.extractLsb'_toNat, Nat.shiftRight_eq_div_pow] at hnat
    exact hnat
  exact congrArg Float.toBits (Float.ofBits_toBits (Float.ofModel ⟨b, hvalid⟩))

theorem toBits_ofBits_bitsOf {negative : Bool} {exponent fraction : Nat} (hexponent : exponent < 2047)
    (hfraction : fraction < 2 ^ 52) :
    (Float.ofBits (UInt64.ofNat (bitsOf negative exponent fraction))).toBits.toNat =
      bitsOf negative exponent fraction := by
  have hlt : bitsOf negative exponent fraction < 2 ^ 64 := by
    rw [bitsOf]
    split <;> omega
  have htoNat : (UInt64.ofNat (bitsOf negative exponent fraction)).toNat = bitsOf negative exponent fraction :=
    UInt64.toNat_ofNat_of_lt hlt
  rw [toBits_ofBits, htoNat]
  rw [htoNat, bitsOf]
  split <;> omega

theorem parts_ofBits {negative : Bool} {exponent fraction : Nat} (hexponent : exponent < 2047)
    (hfraction : fraction < 2 ^ 52) :
    parts (Float.ofBits (UInt64.ofNat (bitsOf negative exponent fraction))) =
      if exponent = 0 then .finite negative fraction leastExponent
      else .finite negative (fraction + 2 ^ 52) ((exponent : Int) - 1075) := by
  have hnegative : (bitsOf negative exponent fraction / 2 ^ 63 == 1) = negative := by
    cases negative with
    | false =>
      have : bitsOf false exponent fraction / 2 ^ 63 = 0 := by
        simp only [bitsOf, Bool.false_eq_true, if_false]
        omega
      rw [this]
      rfl
    | true =>
      have : bitsOf true exponent fraction / 2 ^ 63 = 1 := by
        simp only [bitsOf, if_true]
        omega
      rw [this]
      rfl
  have hfields : bitsOf negative exponent fraction / 2 ^ 52 % 2 ^ 11 = exponent ∧
      bitsOf negative exponent fraction % 2 ^ 52 = fraction := by
    rw [bitsOf]
    split <;> omega
  have hnot : exponent ≠ 2047 := by omega
  simp only [parts, Nat.pow_eq, toBits_ofBits_bitsOf hexponent hfraction, hnegative, hfields, if_neg hnot]

/-- A double that is put together comes apart the same way. -/
theorem parts_assemble {m : Nat} {q : Int} (negative : Bool) (h : IsDouble m q) :
    parts (assemble negative m q) = .finite negative m q := by
  have hmod : m % 2 ^ 52 < 2 ^ 52 := Nat.mod_lt _ (by norm_num)
  have hleast := h.least_le
  have hle := h.le
  have hlt := h.lt
  have hleastValue : leastExponent = -1074 := rfl
  rw [assemble_of_isDouble negative h]
  by_cases hm : m < 2 ^ 52
  · have hq : q = leastExponent := by
      by_contra hne
      exact absurd (h.full hne) (by omega)
    rw [if_pos hm, parts_ofBits (by norm_num) hmod, if_pos rfl, Nat.mod_eq_of_lt hm, hq]
  · have hexponent : (q + 1075).toNat ≠ 0 := by omega
    rw [if_neg hm, parts_ofBits (by omega) hmod, if_neg hexponent]
    congr 1
    · omega
    · omega

/-- A mantissa of too few bits goes with a greater exponent. -/
theorem assemble_scaled (negative : Bool) {m k : Nat} {q : Int} (hm : 0 < m) (hk : m.log2 + k = 52)
    (hq : leastExponent ≤ q - k) : assemble negative m q = assemble negative (m * 2 ^ k) (q - k) := by
  have hne : m ≠ 0 := by omega
  have hne' : m * 2 ^ k ≠ 0 := by positivity
  have hlog : (m * 2 ^ k).log2 = 52 := by
    refine (Nat.log2_eq_iff hne').2 ⟨?_, ?_⟩
    · rw [← hk, Nat.pow_add]
      exact Nat.mul_le_mul_right _ (Nat.log2_self_le hne)
    · rw [← hk, Nat.add_right_comm, Nat.pow_add]
      exact Nat.mul_lt_mul_of_pos_right Nat.lt_log2_self (by positivity)
  have htarget : max ((m.log2 : Int) - 52 + q) leastExponent = q - k := by omega
  have htarget' : max (((52 : Nat) : Int) - 52 + (q - k)) leastExponent = q - k := by omega
  have hmantissa : (if q ≤ q - k then m / 2 ^ (q - k - q).toNat else m * 2 ^ (q - (q - k)).toNat) = m * 2 ^ k := by
    split
    · have hzero : k = 0 := by omega
      subst hzero
      norm_num
    · congr 2
      omega
  simp only [assemble, hne, hne', if_false, hlog, htarget, htarget', Nat.pow_eq, hmantissa, le_refl, if_true, sub_self,
    Int.toNat_zero, pow_zero, Nat.div_one]

/-- A mantissa of too few bits gets all of them with a lower exponent. -/
theorem isDouble_scaled {m k : Nat} {q : Int} (hm : 0 < m) (hk : m.log2 + k = 52) (hleast : leastExponent ≤ q - k)
    (hle : q - k ≤ 971) : IsDouble (m * 2 ^ k) (q - k) := by
  refine ⟨?_, hleast, hle, fun _ => ?_⟩
  · calc m * 2 ^ k < 2 ^ (m.log2 + 1) * 2 ^ k := Nat.mul_lt_mul_of_pos_right Nat.lt_log2_self (by positivity)
      _ = 2 ^ 53 := by rw [← Nat.pow_add]; congr 1; omega
  · calc 2 ^ 52 = 2 ^ m.log2 * 2 ^ k := by rw [← Nat.pow_add]; congr 1; omega
      _ ≤ m * 2 ^ k := Nat.mul_le_mul_right _ (Nat.log2_self_le (Nat.ne_of_gt hm))

/-! ### Singles -/

/-- `m · 2 ^ q` is a single: the mantissa has 24 bits, or fewer if the exponent is the least one. -/
structure IsSingle (m : Nat) (q : Int) : Prop where
  lt : m < 2 ^ 24
  least_le : -149 ≤ q
  le : q ≤ 104
  full : q ≠ -149 → 2 ^ 23 ≤ m

/-- A single is a double, with more bits in its mantissa. -/
theorem IsSingle.exists_isDouble {m : Nat} {q : Int} (h : IsSingle m q) (hm : 0 < m) :
    ∃ k : Nat, IsDouble (m * 2 ^ k) (q - k) ∧ ∀ negative, assemble negative m q = assemble negative (m * 2 ^ k) (q - k) := by
  have hne : m ≠ 0 := by omega
  have hlog : m.log2 < 24 := (Nat.log2_lt hne).2 h.lt
  obtain ⟨k, hk⟩ : ∃ k, m.log2 + k = 52 := ⟨52 - m.log2, by omega⟩
  have hleast := h.least_le
  have hle := h.le
  have hleastValue : leastExponent = -1074 := rfl
  exact ⟨k, isDouble_scaled hm hk (by omega) (by omega), fun negative => assemble_scaled negative hm hk (by omega)⟩

/-- What a single comes apart into has the same value. -/
theorem IsSingle.parts_assemble {m : Nat} {q : Int} (h : IsSingle m q) (negative : Bool) :
    ∃ (m' : Nat) (q' : Int), parts (assemble negative m q) = .finite negative m' q' ∧ (m' : ℚ) * 2 ^ q' = m * 2 ^ q := by
  obtain rfl | hm := Nat.eq_zero_or_pos m
  · refine ⟨0, leastExponent, ?_, by norm_num⟩
    rw [assemble_zero, parts_ofBits (by norm_num) (by norm_num), if_pos rfl]
  · obtain ⟨k, hdouble, heq⟩ := h.exists_isDouble hm
    refine ⟨_, _, (congrArg parts (heq negative)).trans (Number.parts_assemble negative hdouble), ?_⟩
    rw [zpow_sub₀ two_ne_zero, zpow_natCast]
    push_cast
    field_simp

/-- A quotient lies at the power of two at which the leading bit of its mantissa stands. -/
theorem ratioLog2_eq {m num den : Nat} {q : Int} (hm : 0 < m) (hnum : 0 < num) (hden : 0 < den)
    (hvalue : (num : ℚ) / den = m * 2 ^ q) : ratioLog2 num den = m.log2 + q := by
  have hpos := two_zpow_pos q
  obtain ⟨hlow, hhigh⟩ := two_pow_log2_le hm
  refine le_antisymm (Int.lt_add_one_iff.1 (ratioLog2_lt hnum hden ?_)) (le_ratioLog2 hnum hden ?_)
  · rw [hvalue, add_right_comm, zpow_add₀ two_ne_zero]
    exact mul_lt_mul_of_pos_right hhigh hpos
  · rw [hvalue, zpow_add₀ two_ne_zero]
    exact mul_le_mul_of_nonneg_right hlow hpos.le

/-- A quotient that is a single is rounded to it. -/
theorem IsSingle.nearest? {m num den : Nat} {q : Int} (h : IsSingle m q) (hden : 0 < den)
    (hvalue : (num : ℚ) / den = m * 2 ^ q) : single.nearest? num den = some (m, q) := by
  have hden' : (den : ℚ) ≠ 0 := by positivity
  have hpos := two_zpow_pos q
  have hleast := h.least_le
  have hle := h.le
  obtain rfl | hm := Nat.eq_zero_or_pos m
  · have hnum : num = 0 := by
      have : (num : ℚ) / den = 0 := by rw [hvalue]; norm_num
      exact_mod_cast (div_eq_zero_iff.1 this).resolve_right hden'
    have hq : q = -149 := by
      by_contra hne
      exact absurd (h.full hne) (by norm_num)
    rw [Format.nearest?, if_pos hnum, hq]
    rfl
  · have hne : m ≠ 0 := by omega
    have hnum : 0 < num := by
      have hquotient : (0 : ℚ) < num / den := by rw [hvalue]; positivity
      exact_mod_cast (div_pos_iff_of_pos_right (by positivity)).1 hquotient
    have hlog := ratioLog2_eq hm hnum hden hvalue
    have hlogLt : m.log2 < 24 := (Nat.log2_lt hne).2 h.lt
    have hexponent : max (ratioLog2 num den - ((24 - 1 : Nat) : Int)) (-149) = q := by
      by_cases hq : q = -149
      · omega
      · have : 23 ≤ m.log2 := (Nat.le_log2 hne).2 (h.full hq)
        omega
    have hmantissa := nearestNat_scaled (m := m) (q := q) hden (by rw [hvalue]; gcongr; linarith)
      (by rw [hvalue]; gcongr; linarith) (.inr ⟨by rw [hvalue]; gcongr; linarith, by rw [hvalue]; gcongr; linarith⟩)
    have hnumNe : num ≠ 0 := by omega
    have hbounds : ¬(104 < q ∨ q = 104 ∧ m = Nat.pow 2 24) := by
      have hlt := h.lt
      have hpow : Nat.pow 2 24 = 2 ^ 24 := rfl
      omega
    simp only [Format.nearest?, single, if_neg hnumNe, hexponent, hmantissa, if_neg hbounds]

/-! ### The nearest single -/

theorem le_nearestNat {n d k : Nat} (hd : 0 < d) (h : k * d ≤ n) : k ≤ nearestNat n d := by
  have hk : k ≤ n / d := (Nat.le_div_iff_mul_le hd).2 h
  simp only [nearestNat]
  split_ifs
  · exact hk
  · exact Nat.le_succ_of_le hk
  · exact Nat.le_add_right_of_le hk

theorem nearestNat_le {n d k : Nat} (hd : 0 < d) (h : n ≤ k * d) : nearestNat n d ≤ k := by
  have hdiv := Nat.div_add_mod n d
  have hk : n / d ≤ k := Nat.div_le_of_le_mul (by rwa [Nat.mul_comm] at h)
  simp only [nearestNat]
  obtain heq | hlt := Nat.eq_or_lt_of_le hk
  · have hrest : n % d = 0 := by
      rw [heq, Nat.mul_comm] at hdiv
      omega
    rw [hrest, if_pos (by omega), heq]
  · split_ifs <;> omega

/-- The quotient in units of `2 ^ q` is rounded to a whole number between the same bounds. -/
theorem nearestNat_bounds {num den low high : Nat} {q : Int} (hden : 0 < den)
    (hlow : (low : ℚ) * 2 ^ q ≤ num / den) (hhigh : (num : ℚ) / den ≤ high * 2 ^ q) :
    low ≤ (if 0 ≤ q then nearestNat num (den * Nat.pow 2 q.toNat) else nearestNat (num * Nat.pow 2 (-q).toNat) den) ∧
      (if 0 ≤ q then nearestNat num (den * Nat.pow 2 q.toNat)
        else nearestNat (num * Nat.pow 2 (-q).toNat) den) ≤ high := by
  have hden' : (0 : ℚ) < den := by exact_mod_cast hden
  simp only [Nat.pow_eq]
  by_cases hq : 0 ≤ q
  · obtain ⟨k, rfl⟩ := Int.eq_ofNat_of_zero_le hq
    rw [zpow_natCast, le_div_iff₀ hden'] at hlow
    rw [zpow_natCast, div_le_iff₀ hden'] at hhigh
    rw [if_pos hq, Int.toNat_natCast]
    refine ⟨le_nearestNat (by positivity) ?_, nearestNat_le (by positivity) ?_⟩
    · have : (low : ℚ) * (den * 2 ^ k) ≤ num := by linarith
      exact_mod_cast this
    · have : (num : ℚ) ≤ high * (den * 2 ^ k) := by linarith
      exact_mod_cast this
  · obtain ⟨k, rfl⟩ : ∃ k : Nat, q = -(k : Int) := ⟨(-q).toNat, by omega⟩
    have hpow : (0 : ℚ) < 2 ^ k := by positivity
    rw [zpow_neg, zpow_natCast, ← div_eq_mul_inv, div_le_div_iff₀ hpow hden'] at hlow
    rw [zpow_neg, zpow_natCast, ← div_eq_mul_inv, div_le_div_iff₀ hden' hpow] at hhigh
    rw [if_neg hq, neg_neg, Int.toNat_natCast]
    refine ⟨le_nearestNat hden ?_, nearestNat_le hden ?_⟩
    · exact_mod_cast hlow
    · exact_mod_cast hhigh

/-- A mantissa of 25 bits stands for the least one of 24 bits with the next exponent. -/
theorem assemble_two_pow_24 (negative : Bool) {q : Int} (hq : -149 ≤ q) :
    assemble negative (2 ^ 24) q = assemble negative (2 ^ 23) (q + 1) := by
  have h24 : (2 ^ 24 : Nat).log2 = 24 := Nat.log2_two_pow
  have h23 : (2 ^ 23 : Nat).log2 = 23 := Nat.log2_two_pow
  have hleastValue : leastExponent = -1074 := rfl
  have hleft := assemble_scaled negative (m := 2 ^ 24) (k := 28) (q := q) (by norm_num) (by rw [h24]) (by omega)
  have hright := assemble_scaled negative (m := 2 ^ 23) (k := 29) (q := q + 1) (by norm_num) (by rw [h23]) (by omega)
  have hexponent : q + 1 - ((29 : Nat) : Int) = q - ((28 : Nat) : Int) := by omega
  have hmantissa : 2 ^ 24 * 2 ^ 28 = 2 ^ 23 * 2 ^ 29 := by norm_num
  rw [hleft, hright, hexponent, hmantissa]

/-- How the mantissa and the exponent of the nearest number of a format are found. -/
theorem Format.nearest?_spec {format : Format} {num den m : Nat} {q : Int} (hnum : 0 < num)
    (h : format.nearest? num den = some (m, q)) :
    q = max (ratioLog2 num den - (format.bits - 1 : Nat)) format.least ∧
      m = (if 0 ≤ q then nearestNat num (den * Nat.pow 2 q.toNat) else nearestNat (num * Nat.pow 2 (-q).toNat) den) ∧
      ¬(format.greatest < q ∨ q = format.greatest ∧ m = 2 ^ format.bits) := by
  rw [Format.nearest?, if_neg (Nat.ne_of_gt hnum)] at h
  obtain ⟨hbeyond, hresult⟩ := Option.ite_none_left_eq_some.1 h
  obtain ⟨hm, hq⟩ := Prod.mk.inj (Option.some.inj hresult)
  rw [hm, hq] at hbeyond
  rw [hq] at hm
  exact ⟨hq.symm, hm.symm, hbeyond⟩

/-- The mantissa of the nearest number of a format has all bits of the format, or one more by rounding up. -/
theorem Format.bounds_of_nearest? (format : Format) (hbits : 0 < format.bits) (hrange : format.least ≤ format.greatest)
    {num den m : Nat} {q : Int} (hden : 0 < den) (h : format.nearest? num den = some (m, q)) :
    m ≤ 2 ^ format.bits ∧ format.least ≤ q ∧ q ≤ format.greatest ∧
      (q ≠ format.least → 2 ^ (format.bits - 1) ≤ m) ∧ (m = 2 ^ format.bits → q ≠ format.greatest) := by
  by_cases hnum : num = 0
  · rw [Format.nearest?, if_pos hnum] at h
    obtain ⟨rfl, rfl⟩ := Prod.mk.inj (Option.some.inj h)
    exact ⟨Nat.zero_le _, le_rfl, hrange, fun hne => absurd rfl hne, fun hm => absurd hm.symm (by positivity)⟩
  obtain ⟨hlow, hhigh⟩ := ratioLog2_spec (Nat.pos_of_ne_zero hnum) hden
  obtain ⟨hq, hm, hbeyond⟩ := Format.nearest?_spec (Nat.pos_of_ne_zero hnum) h
  -- the exponent is chosen so that the mantissa has all bits, or fewer if it is the least one
  have hbelow : (num : ℚ) / den ≤ (2 ^ format.bits : Nat) * 2 ^ q := by
    rw [Nat.cast_pow, Nat.cast_ofNat, ← two_zpow_add]
    exact hhigh.le.trans (zpow_le_zpow_right₀ one_le_two (by omega))
  have hnonneg : ((0 : Nat) : ℚ) * 2 ^ q ≤ num / den := by
    rw [Nat.cast_zero, zero_mul]
    positivity
  have hmost : m ≤ 2 ^ format.bits := hm ▸ (nearestNat_bounds hden hnonneg hbelow).2
  have hfull (hne : q ≠ format.least) : 2 ^ (format.bits - 1) ≤ m := by
    have habove : ((2 ^ (format.bits - 1) : Nat) : ℚ) * 2 ^ q ≤ num / den := by
      rw [Nat.cast_pow, Nat.cast_ofNat, ← two_zpow_add]
      exact (zpow_le_zpow_right₀ one_le_two (by omega)).trans hlow
    exact hm ▸ (nearestNat_bounds hden habove hbelow).1
  exact ⟨hmost, by omega, by omega, hfull, fun hfull heq => hbeyond (.inr ⟨heq, hfull⟩)⟩

/-- The nearest single is an infinity or has the mantissa and exponent of a single. -/
theorem nearest_single_cases (negative : Bool) {num den : Nat} (hden : 0 < den) :
    nearest single negative num den = infinity negative ∨
      ∃ m q, IsSingle m q ∧ nearest single negative num den = assemble negative m q := by
  rw [nearest]
  cases h : single.nearest? num den with
  | none => exact .inl rfl
  | some result =>
    obtain ⟨m, q⟩ := result
    obtain ⟨hmost, hleast, hle, hfull, hbeyond⟩ := single.bounds_of_nearest? (by decide) (by decide) hden h
    have hleastValue : single.least = -149 := rfl
    have hgreatestValue : single.greatest = 104 := rfl
    obtain heq | hlt := Nat.eq_or_lt_of_le hmost
    · have hq := hbeyond heq
      refine .inr ⟨2 ^ 23, q + 1, ⟨by norm_num, by omega, by omega, fun _ => le_rfl⟩, ?_⟩
      rw [heq]
      exact assemble_two_pow_24 negative hleast
    · exact .inr ⟨m, q, ⟨hlt, hleast, hle, hfull⟩, rfl⟩

/-! ### Rounding twice -/

theorem toSingle_infinity (negative : Bool) : toSingle (infinity negative) = infinity negative := by
  have hparts : parts (infinity negative) = .infinite negative := by
    cases negative <;> decide +kernel
  rw [toSingle, hparts]

theorem toSingle_assemble {m : Nat} {q : Int} (negative : Bool) (h : IsSingle m q) :
    toSingle (assemble negative m q) = assemble negative m q := by
  obtain ⟨m', q', hparts, hvalue⟩ := h.parts_assemble negative
  rw [toSingle, hparts]
  simp only [Nat.pow_eq]
  split
  · next hq' =>
    obtain ⟨k, rfl⟩ := Int.eq_ofNat_of_zero_le hq'
    have hratio : ((m' * 2 ^ (k : Int).toNat : Nat) : ℚ) / (1 : Nat) = m * 2 ^ q := by
      rw [← hvalue, Int.toNat_natCast, zpow_natCast]
      push_cast
      ring
    rw [nearest, h.nearest? Nat.one_pos hratio]
  · next hq' =>
    obtain ⟨k, rfl⟩ : ∃ k : Nat, q' = -(k : Int) := ⟨(-q').toNat, by omega⟩
    have hratio : (m' : ℚ) / ((2 ^ (- -(k : Int)).toNat : Nat) : ℚ) = m * 2 ^ q := by
      rw [← hvalue, neg_neg, Int.toNat_natCast, zpow_neg, zpow_natCast]
      push_cast
      ring
    rw [nearest, h.nearest? (by positivity) hratio]

/-- The nearest single of anything is its own nearest single. -/
theorem toSingle_nearest (negative : Bool) {num den : Nat} (hden : 0 < den) :
    toSingle (nearest single negative num den) = nearest single negative num den := by
  obtain h | ⟨m, q, hsingle, h⟩ := nearest_single_cases negative hden
  · rw [h, toSingle_infinity]
  · rw [h, toSingle_assemble negative hsingle]

/-- Rounding to singles twice is rounding once. -/
theorem toSingle_toSingle (x : Float) : toSingle (toSingle x) = toSingle x := by
  by_cases hfinite : ∃ negative m q, parts x = .finite negative m q
  · obtain ⟨negative, m, q, hparts⟩ := hfinite
    have hnearest : ∃ num den, 0 < den ∧ toSingle x = nearest single negative num den := by
      simp only [toSingle, hparts, Nat.pow_eq]
      split
      · exact ⟨_, 1, Nat.one_pos, rfl⟩
      · exact ⟨_, _, by positivity, rfl⟩
    obtain ⟨num, den, hden, heq⟩ := hnearest
    rw [heq, toSingle_nearest negative hden]
  · have hsame : toSingle x = x := by
      rw [toSingle]
      split
      · next negative m q hparts => exact absurd ⟨negative, m, q, hparts⟩ hfinite
      · rfl
    rw [hsame, hsame]

end SqlFormula.Number
