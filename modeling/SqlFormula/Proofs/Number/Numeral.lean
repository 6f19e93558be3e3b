import Mathlib
import SqlFormula.Instant.Write
import SqlFormula.Number.Integer
import SqlFormula.Text.Blank

/-!
# Numerals

Decimal numerals are read back as the numbers that they were written for, also with zeros in front and with
a sign.

## Main definitions

- `Number.EndsDigits` — what follows does not go on with a digit

## Main statements

- `Number.readInteger?_toString`, `Number.readInt64?_toString` — integers are read back from their text
- `Number.digitsValue_padded`, `Number.length_padded` — numbers filled up with zeros
-/

namespace SqlFormula.Number

/-! ### Digits and the numbers they stand for -/

theorem digitsValue_eq (cs : List Char) : digitsValue cs = Nat.ofDigitChars 10 cs 0 :=
  rfl

@[simp]
theorem digitsValue_toDigits (n : Nat) : digitsValue (Nat.toDigits 10 n) = n :=
  Nat.ofDigitChars_ten_toDigits

theorem digitsValue_append (cs ds : List Char) :
    digitsValue (cs ++ ds) = 10 ^ ds.length * digitsValue cs + digitsValue ds := by
  simp only [digitsValue_eq]
  rw [Nat.ofDigitChars_append, Nat.ofDigitChars_eq_ofDigitChars_zero]

@[simp]
theorem digitsValue_zeros (n : Nat) : digitsValue (List.replicate n '0') = 0 := by
  rw [digitsValue_eq, Nat.ofDigitChars_replicate_zero, Nat.mul_zero]

theorem digitsValue_zeros_append (n : Nat) (cs : List Char) :
    digitsValue (List.replicate n '0' ++ cs) = digitsValue cs := by
  rw [digitsValue_append, digitsValue_zeros, Nat.mul_zero, Nat.zero_add]

/-- Each zero at the end is a factor of ten. -/
theorem digitsValue_append_zeros (cs : List Char) (n : Nat) :
    digitsValue (cs ++ List.replicate n '0') = 10 ^ n * digitsValue cs := by
  rw [digitsValue_append, digitsValue_zeros, List.length_replicate, Nat.add_zero]

theorem isDigit_of_mem_toDigits {n : Nat} {c : Char} (h : c ∈ Nat.toDigits 10 n) : c.isDigit :=
  Nat.isDigit_of_mem_toDigits (by decide) (by decide) h

theorem isDigit_of_mem_zeros {n : Nat} {c : Char} (h : c ∈ List.replicate n '0') : c.isDigit := by
  rw [List.eq_of_mem_replicate h]
  decide

theorem isDigit_zeros_append {cs : List Char} (h : ∀ c ∈ cs, c.isDigit) (n : Nat) :
    ∀ c ∈ List.replicate n '0' ++ cs, c.isDigit :=
  List.forall_mem_append.2 ⟨fun _ => isDigit_of_mem_zeros, h⟩

theorem isDigit_append_zeros {cs : List Char} (h : ∀ c ∈ cs, c.isDigit) (n : Nat) :
    ∀ c ∈ cs ++ List.replicate n '0', c.isDigit :=
  List.forall_mem_append.2 ⟨h, fun _ => isDigit_of_mem_zeros⟩

/-- A sign, a point and the marks of an exponent are no digits. -/
theorem ne_of_isDigit {c d : Char} (hc : c.isDigit) (hd : d.isDigit = false) : c ≠ d := by
  rintro rfl
  rw [hd] at hc
  cases hc

theorem isBlank_of_isDigit {c : Char} (h : c.isDigit) : Text.isBlank c = false := by
  simp only [Char.isDigit, Bool.and_eq_true, decide_eq_true_eq, ge_iff_le, UInt32.le_iff_toNat_le,
    UInt32.reduceToNat, Char.reduceVal, Char.toNat_val] at h
  simp only [Text.isBlank, Bool.or_eq_false_iff, Bool.and_eq_false_iff, decide_eq_false_iff_not, beq_eq_false_iff_ne]
  omega

theorem readNat?_eq_some {cs : List Char} (hne : cs ≠ []) (h : ∀ c ∈ cs, c.isDigit) :
    readNat? cs = some (digitsValue cs) := by
  have hall : cs.all Char.isDigit = true := List.all_eq_true.2 h
  have hempty : cs.isEmpty = false := by simpa using hne
  simp [readNat?, hall, hempty]

@[simp]
theorem readNat?_toDigits (n : Nat) : readNat? (Nat.toDigits 10 n) = some n := by
  rw [readNat?_eq_some Nat.toDigits_ne_nil fun _ => isDigit_of_mem_toDigits, digitsValue_toDigits]

/-! ### What follows digits -/

/-- What follows does not go on with a digit. -/
def EndsDigits (rest : List Char) : Prop :=
  ∀ c ∈ rest.head?, c.isDigit = false

theorem endsDigits_nil : EndsDigits [] := by
  intro c hc
  cases hc

theorem endsDigits_cons {c : Char} {rest : List Char} (hc : c.isDigit = false) : EndsDigits (c :: rest) := by
  intro d hd
  obtain rfl := Option.some.inj hd
  exact hc

theorem takeWhile_isDigit {whole rest : List Char} (hdigits : ∀ c ∈ whole, c.isDigit) (hrest : EndsDigits rest) :
    (whole ++ rest).takeWhile Char.isDigit = whole ∧ (whole ++ rest).dropWhile Char.isDigit = rest := by
  have hend : rest.takeWhile Char.isDigit = [] ∧ rest.dropWhile Char.isDigit = rest := by
    cases rest with
    | nil => exact ⟨rfl, rfl⟩
    | cons c cs =>
      have hc : c.isDigit = false := hrest c rfl
      simp [hc]
  rw [List.takeWhile_append_of_pos hdigits, List.dropWhile_append_of_pos hdigits, hend.1, hend.2, List.append_nil]
  exact ⟨rfl, rfl⟩

/-! ### Integers -/

theorem readInteger?_of_digits {cs : List Char} (hne : cs ≠ []) (h : ∀ c ∈ cs, c.isDigit) :
    readInteger? cs = some (digitsValue cs : Int) := by
  obtain ⟨c, rest, rfl⟩ := List.exists_cons_of_ne_nil hne
  have hc : c.isDigit := h c List.mem_cons_self
  have hplus : c ≠ '+' := ne_of_isDigit hc (by decide)
  have hminus : c ≠ '-' := ne_of_isDigit hc (by decide)
  unfold readInteger?
  split
  · next heq => exact absurd (List.cons.inj heq).1 hplus
  · next heq => exact absurd (List.cons.inj heq).1 hminus
  · rw [readNat?_eq_some hne h]
    rfl

theorem readUnsigned?_of_digits {cs : List Char} (hne : cs ≠ []) (h : ∀ c ∈ cs, c.isDigit) :
    readUnsigned? cs = some (digitsValue cs) := by
  obtain ⟨c, rest, rfl⟩ := List.exists_cons_of_ne_nil hne
  have hplus : c ≠ '+' := ne_of_isDigit (h c List.mem_cons_self) (by decide)
  unfold readUnsigned?
  split
  · next heq => exact absurd (List.cons.inj heq).1 hplus
  · exact readNat?_eq_some hne h

theorem readInteger?_neg_of_digits {cs : List Char} (hne : cs ≠ []) (h : ∀ c ∈ cs, c.isDigit) :
    readInteger? ('-' :: cs) = some (-(digitsValue cs : Int)) := by
  rw [readInteger?, readNat?_eq_some hne h]
  rfl

/-- The text of an integer: its digits, after a minus sign if it is negative. -/
theorem toList_toString (i : Int) :
    (toString i).toList = (if i < 0 then ['-'] else []) ++ Nat.toDigits 10 i.natAbs := by
  rw [Int.toString_eq_repr, Int.repr_eq_if]
  by_cases hi : i < 0
  · have h0 : ¬0 ≤ i := by omega
    have habs : (-i).toNat = i.natAbs := by omega
    simp [hi, h0, habs]
  · have h0 : 0 ≤ i := by omega
    have habs : i.toNat = i.natAbs := by omega
    simp [hi, h0, habs]

theorem readInteger?_toString (i : Int) : readInteger? (toString i).toList = some i := by
  rw [toList_toString]
  by_cases hi : i < 0
  · simp only [hi, if_true, List.singleton_append]
    rw [readInteger?_neg_of_digits Nat.toDigits_ne_nil fun _ => isDigit_of_mem_toDigits,
      digitsValue_toDigits]
    congr 1
    omega
  · simp only [hi, if_false, List.nil_append]
    rw [readInteger?_of_digits Nat.toDigits_ne_nil fun _ => isDigit_of_mem_toDigits,
      digitsValue_toDigits]
    congr 1
    omega

theorem int64?_eq_some {i : Int} (h : Fits i) : int64? i = some (Int64.ofInt i) :=
  if_pos h

theorem exists_int64? {i : Int} (h : Fits i) : ∃ k, int64? i = some k ∧ k.toInt = i :=
  ⟨_, int64?_eq_some h, Int64.toInt_ofInt_of_le h.1 (Int.lt_add_one_of_le h.2)⟩

/-- The 64-bit integer nearest to an integer is the integer, or the nearer end of the range. -/
theorem toInt_int64Nearest (i : Int) :
    (int64Nearest i).toInt = max (-9223372036854775808) (min i 9223372036854775807) := by
  rw [int64Nearest]
  split_ifs with hlow hhigh
  · show (-9223372036854775808 : Int) = _
    omega
  · show (9223372036854775807 : Int) = _
    omega
  · rw [Int64.toInt_ofInt_of_le (by omega) (by omega)]
    omega

theorem fits_toInt (i : Int64) : Fits i.toInt := by
  have hlow := i.le_toInt
  have hhigh := i.toInt_lt
  constructor <;> omega

@[simp]
theorem int64?_toInt (i : Int64) : int64? i.toInt = some i := by
  rw [int64?_eq_some (fits_toInt i), Int64.ofInt_toInt]

theorem readInt64?_toString (i : Int64) : readInt64? (toString i.toInt).toList = some i := by
  rw [readInt64?, readInteger?_toString]
  exact int64?_toInt i

/-! ### Numbers filled up with zeros -/

@[simp]
theorem digitsValue_padded (width n : Nat) : digitsValue (padded width n) = n := by
  simp only [padded]
  rw [digitsValue_zeros_append, digitsValue_toDigits]

theorem isDigit_of_mem_padded {width n : Nat} {c : Char} (h : c ∈ padded width n) : c.isDigit :=
  isDigit_zeros_append (fun _ => isDigit_of_mem_toDigits) _ c h

theorem length_padded {width n : Nat} (hw : 0 < width) (hn : n < 10 ^ width) :
    (padded width n).length = width := by
  have hle := (Nat.length_toDigits_le_iff (by decide : 1 < 10) hw).2 hn
  simp only [padded, List.length_append, List.length_replicate]
  omega

theorem lt_length_padded {width n : Nat} (hw : 0 < width) (hn : 10 ^ width ≤ n) : width < (padded width n).length := by
  have hlt : width < (Nat.toDigits 10 n).length := by
    refine Nat.lt_of_not_le fun hle => ?_
    exact absurd ((Nat.length_toDigits_le_iff (by decide : 1 < 10) hw).1 hle) (Nat.not_lt.2 hn)
  simp only [padded, List.length_append]
  omega

theorem padded_ne_nil (width n : Nat) : padded width n ≠ [] := by
  simp [padded, Nat.toDigits_ne_nil]

end SqlFormula.Number
