import Mathlib
import SqlFormula.Number.Binary64

/-!
# Doubles and their parts

A double is put together again from its sign, its mantissa and its exponent.

## Main definitions

- `IsDouble` — the mantissas and exponents of finite doubles

## Main statements

- `isDouble_of_parts` — every finite double has such a mantissa and exponent
- `assemble_of_parts` — it is assembled from them
- `assemble_two_pow_53` — a mantissa of one bit too many goes with the next exponent
-/

namespace SqlFormula.Number

/-- `m · 2 ^ q` is a double: the mantissa has 53 bits, or fewer if the exponent is
the least one. -/
structure IsDouble (m : Nat) (q : Int) : Prop where
  lt : m < 2 ^ 53
  least_le : leastExponent ≤ q
  le : q ≤ 971
  full : q ≠ leastExponent → 2 ^ 52 ≤ m

/-- The bits of a double, from its sign, its exponent as it is stored, and the rest of its mantissa. -/
def bitsOf (negative : Bool) (exponent fraction : Nat) : Nat :=
  (if negative then 2 ^ 63 else 0) + exponent * 2 ^ 52 + fraction

theorem toBits_lt (x : Float) : x.toBits.toNat < 2 ^ 64 :=
  x.toBits.toNat_lt

theorem ofBits_toNat (x : Float) : Float.ofBits (UInt64.ofNat x.toBits.toNat) = x := by
  rw [UInt64.ofNat_toNat, Float.ofBits_toBits]

theorem toBits_eq_bitsOf (x : Float) :
    x.toBits.toNat = bitsOf (x.toBits.toNat / 2 ^ 63 == 1) (x.toBits.toNat / 2 ^ 52 % 2 ^ 11)
      (x.toBits.toNat % 2 ^ 52) := by
  have hlt := toBits_lt x
  generalize x.toBits.toNat = bits at hlt ⊢
  have hsign : (if (bits / 2 ^ 63 == 1) = true then 2 ^ 63 else 0) = bits / 2 ^ 63 * 2 ^ 63 := by
    by_cases h : bits / 2 ^ 63 = 1
    · rw [h]
      rfl
    · have h0 : bits / 2 ^ 63 = 0 := by omega
      rw [h0]
      rfl
  rw [bitsOf, hsign]
  omega

/-- What a double stands for tells which fields its bits have. -/
theorem parts_cases (x : Float) :
    (parts x = .nan ∧ x.toBits.toNat / 2 ^ 52 % 2 ^ 11 = 2047 ∧ x.toBits.toNat % 2 ^ 52 ≠ 0) ∨
      (∃ negative, parts x = .infinite negative ∧ x.toBits.toNat = bitsOf negative 2047 0) ∨
      (∃ negative m, parts x = .finite negative m leastExponent ∧ m < 2 ^ 52 ∧
        x.toBits.toNat = bitsOf negative 0 m) ∨
      ∃ (negative : Bool) (fraction exponent : Nat),
        parts x = .finite negative (fraction + 2 ^ 52) ((exponent : Int) - 1075) ∧ fraction < 2 ^ 52 ∧
        0 < exponent ∧ exponent < 2047 ∧
        x.toBits.toNat = bitsOf negative exponent fraction := by
  have hbits := toBits_eq_bitsOf x
  have hfraction : x.toBits.toNat % 2 ^ 52 < 2 ^ 52 := Nat.mod_lt _ (by norm_num)
  have hexponent : x.toBits.toNat / 2 ^ 52 % 2 ^ 11 < 2 ^ 11 := Nat.mod_lt _ (by norm_num)
  simp only [parts, Nat.pow_eq]
  generalize (x.toBits.toNat / 2 ^ 63 == 1) = negative at *
  generalize x.toBits.toNat / 2 ^ 52 % 2 ^ 11 = exponent at *
  generalize x.toBits.toNat % 2 ^ 52 = fraction at *
  by_cases hmax : exponent = 2047
  · subst hmax
    by_cases hzero : fraction = 0
    · exact .inr (.inl ⟨negative, by rw [if_pos rfl, if_pos hzero], by rw [hbits, hzero]⟩)
    · exact .inl ⟨by rw [if_pos rfl, if_neg hzero], rfl, hzero⟩
  · by_cases hmin : exponent = 0
    · subst hmin
      exact .inr (.inr (.inl ⟨negative, fraction, by rw [if_neg hmax, if_pos rfl], hfraction, hbits⟩))
    · exact .inr (.inr (.inr ⟨negative, fraction, exponent, by rw [if_neg hmax, if_neg hmin], hfraction,
        by omega, by omega, hbits⟩))

theorem isDouble_of_parts {x : Float} {negative : Bool} {m : Nat} {q : Int}
    (h : parts x = .finite negative m q) : IsDouble m q := by
  obtain ⟨hp, -⟩ | ⟨_, hp, -⟩ | ⟨_, m', hp, hm, -⟩ | ⟨_, fraction, exponent, hp, hf, h0, h1, -⟩ :=
    parts_cases x
  · rw [h] at hp; cases hp
  · rw [h] at hp; cases hp
  · rw [h] at hp
    obtain ⟨-, rfl, rfl⟩ := Parts.finite.inj hp
    exact ⟨by omega, le_rfl, by decide, fun hne => absurd rfl hne⟩
  · rw [h] at hp
    obtain ⟨-, rfl, rfl⟩ := Parts.finite.inj hp
    refine ⟨by omega, ?_, by omega, fun _ => by omega⟩
    simp only [leastExponent]
    omega

/-! ### Putting doubles together -/

theorem assemble_zero (negative : Bool) (q : Int) :
    assemble negative 0 q = Float.ofBits (UInt64.ofNat (bitsOf negative 0 0)) := by
  cases negative <;> rfl

theorem assemble_of_isDouble {m : Nat} {q : Int} (negative : Bool) (h : IsDouble m q) :
    assemble negative m q = Float.ofBits (UInt64.ofNat
      (bitsOf negative (if m < 2 ^ 52 then 0 else (q + 1075).toNat) (m % 2 ^ 52))) := by
  by_cases hm : m = 0
  · subst hm
    simp [assemble_zero]
  have hlog : m.log2 < 53 := (Nat.log2_lt hm).2 h.lt
  have htarget : max ((m.log2 : Int) - 52 + q) leastExponent = q := by
    have hleast := h.least_le
    by_cases hq : q = leastExponent
    · omega
    · have : 52 ≤ m.log2 := (Nat.le_log2 hm).2 (h.full hq)
      omega
  simp only [assemble, hm, if_false, htarget, le_refl, if_true, sub_self, Int.toNat_zero, Nat.pow_eq,
    pow_zero, Nat.div_one, bitsOf]

theorem assemble_of_parts {x : Float} {negative : Bool} {m : Nat} {q : Int}
    (h : parts x = .finite negative m q) : assemble negative m q = x := by
  rw [assemble_of_isDouble negative (isDouble_of_parts h)]
  suffices hbits : x.toBits.toNat =
      bitsOf negative (if m < 2 ^ 52 then 0 else (q + 1075).toNat) (m % 2 ^ 52) by
    rw [← hbits, ofBits_toNat]
  obtain ⟨hp, -⟩ | ⟨_, hp, -⟩ | ⟨_, m', hp, hm, hb⟩ | ⟨_, fraction, exponent, hp, hf, -, -, hb⟩ :=
    parts_cases x
  · rw [h] at hp; cases hp
  · rw [h] at hp; cases hp
  · rw [h] at hp
    obtain ⟨rfl, rfl, rfl⟩ := Parts.finite.inj hp
    rw [hb, if_pos hm, Nat.mod_eq_of_lt hm]
  · rw [h] at hp
    obtain ⟨rfl, rfl, rfl⟩ := Parts.finite.inj hp
    have hfull : ¬fraction + 2 ^ 52 < 2 ^ 52 := by omega
    have hexponent : ((exponent : Int) - 1075 + 1075).toNat = exponent := by omega
    rw [hb, if_neg hfull, hexponent, Nat.add_mod_right, Nat.mod_eq_of_lt hf]

/-- A mantissa of one bit too many stands for the least one of 53 bits with the next exponent. -/
theorem assemble_two_pow_53 (negative : Bool) {q : Int} (hq : leastExponent < q) :
    assemble negative (2 ^ 53) (q - 1) = assemble negative (2 ^ 52) q := by
  have h53 : (2 ^ 53 : Nat).log2 = 53 := Nat.log2_two_pow
  have h52 : (2 ^ 52 : Nat).log2 = 52 := Nat.log2_two_pow
  have htarget : max (((53 : Nat) : Int) - 52 + (q - 1)) leastExponent = q := by omega
  have htarget' : max (((52 : Nat) : Int) - 52 + q) leastExponent = q := by omega
  have hle : q - 1 ≤ q := by omega
  have hone : (q - (q - 1)).toNat = 1 := by omega
  have hne : (2 ^ 53 : Nat) ≠ 0 := by norm_num
  have hne' : (2 ^ 52 : Nat) ≠ 0 := by norm_num
  simp only [assemble, hne, hne', if_false, h53, h52, htarget, htarget', hle, le_refl, if_true, hone,
    sub_self, Int.toNat_zero, Nat.pow_eq]
  norm_num

/-! ### Infinities and NaN -/

theorem infinity_of_parts {x : Float} {negative : Bool} (h : parts x = .infinite negative) :
    infinity negative = x := by
  obtain ⟨hp, -⟩ | ⟨_, hp, hb⟩ | ⟨_, m', hp, -⟩ | ⟨_, fraction, exponent, hp, -⟩ := parts_cases x
  · rw [h] at hp; cases hp
  · rw [h] at hp
    obtain rfl := Parts.infinite.inj hp
    rw [← ofBits_toNat x, hb]
    cases negative <;> decide +kernel
  · rw [h] at hp; cases hp
  · rw [h] at hp; cases hp

/-- All NaNs are the same: only one pattern of bits stands for them. -/
theorem nan_of_parts {x : Float} (h : parts x = .nan) : (0.0 / 0.0 : Float) = x := by
  obtain ⟨-, hexponent, hfraction⟩ | ⟨_, hp, -⟩ | ⟨_, m', hp, -⟩ | ⟨_, fraction, exponent, hp, -⟩ :=
    parts_cases x
  · have hvalid := x.toModel.valid.eq_packedNaN (BitVec.eq_of_toNat_eq ?_) ?_
    · have hnan : (0.0 / 0.0 : Float).toBits.toBitVec =
          Float.Model.UnpackedFloat.packedNaN Float.Model.Format.binary64 := by decide +kernel
      exact Float.toBits_inj.1 (UInt64.toBitVec_inj.1 (hnan.trans hvalid.symm))
    · rw [Float.Model.UnpackedFloat.unpackExponent_def, BitVec.extractLsb'_toNat, Nat.shiftRight_eq_div_pow]
      exact hexponent
    · intro hzero
      have hnat := congrArg BitVec.toNat hzero
      rw [Float.Model.UnpackedFloat.unpackMantissa_def, BitVec.extractLsb'_toNat, Nat.shiftRight_eq_div_pow,
        Nat.pow_zero, Nat.div_one] at hnat
      exact hfraction hnat
  · rw [h] at hp; cases hp
  · rw [h] at hp; cases hp
  · rw [h] at hp; cases hp

end SqlFormula.Number
