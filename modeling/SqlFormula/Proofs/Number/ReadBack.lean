import Mathlib
import SqlFormula.Number.Layout
import SqlFormula.Number.Reading
import SqlFormula.Proofs.Number.Numeral
import SqlFormula.Proofs.Number.Shortest

/-!
# Doubles are read back from their text

Whatever the layout, a double is written as the shortest decimal in its interval, and a decimal in the interval
is rounded to the double. So the text of a double is read back as the double itself, signed zeros, infinities
and NaN included.

## Main definitions

- `DecimalText.value` — the number that a written decimal stands for, without its sign
- `ReadsAs` — a text is a decimal with a sign and a number

## Main statements

- `readsAs_writeDecimal` — every layout writes the number of a decimal
- `DecimalText.nearest_eq` — a decimal in the interval of a double is rounded to it
- `readFloat?_write` — a double is read back from its text
-/

namespace SqlFormula.Number

/-- The number that a written decimal stands for, without its sign. -/
def DecimalText.value (d : DecimalText) : ℚ :=
  d.digits * (10 : ℚ) ^ d.power

/-- A text is a decimal with a sign that stands for a number. -/
def ReadsAs (cs : List Char) (negative : Bool) (r : ℚ) : Prop :=
  ∃ d, readDecimal? cs = some d ∧ d.negative = negative ∧ d.value = r

/-! ### Parts of a decimal -/

section

variable {cs : List Char} {negative : Bool} {power : Int}

theorem readDecimal?_whole (whole rest : List Char) (hsign : splitSign cs = (negative, whole ++ rest))
    (hne : whole ≠ []) (hdigits : ∀ c ∈ whole, c.isDigit) (hrest : EndsDigits rest) (hpoint : rest.head? ≠ some '.')
    (hpower : readPower? rest = some power) :
    readDecimal? cs = some { negative, digits := digitsValue whole, power } := by
  obtain ⟨htake, hdrop⟩ := takeWhile_isDigit hdigits hrest
  have hsplit : splitPoint rest = ([], rest) := by
    unfold splitPoint
    split
    · exact absurd rfl hpoint
    · rfl
  have hempty : whole.isEmpty = false := by simpa using hne
  simp [readDecimal?, hsign, htake, hdrop, hsplit, hempty, hpower]

theorem readDecimal?_point (whole fraction rest : List Char)
    (hsign : splitSign cs = (negative, whole ++ '.' :: (fraction ++ rest))) (hne : whole ≠ [])
    (hdigits : ∀ c ∈ whole, c.isDigit) (hfraction : ∀ c ∈ fraction, c.isDigit) (hrest : EndsDigits rest)
    (hpower : readPower? rest = some power) :
    readDecimal? cs =
      some { negative, digits := digitsValue (whole ++ fraction), power := power - fraction.length } := by
  have hdot : EndsDigits ('.' :: (fraction ++ rest)) := by
    intro c hc
    obtain rfl := Option.some.inj hc
    rfl
  obtain ⟨htake, hdrop⟩ := takeWhile_isDigit hdigits hdot
  obtain ⟨htake', hdrop'⟩ := takeWhile_isDigit hfraction hrest
  have hsplit : splitPoint ('.' :: (fraction ++ rest)) = (fraction, rest) := by
    rw [splitPoint, htake', hdrop']
  have hempty : whole.isEmpty = false := by simpa using hne
  simp [readDecimal?, hsign, htake, hdrop, hsplit, hempty, hpower]

end

/-! ### Layouts -/

namespace Layout

section

variable {cs : List Char} {negative : Bool}

section

variable {ds : List Char} {n k : Nat}

/-- Zeros stand between the point and the digits. -/
theorem readsAs_zeros_append (hdigit : ∀ c ∈ ds, c.isDigit) (hvalue : digitsValue ds = n)
    (hsign : splitSign cs = (negative, '0' :: '.' :: (List.replicate k '0' ++ ds))) :
    ReadsAs cs negative (n * (10 : ℚ) ^ (-(k + ds.length : Int))) := by
  refine ⟨_, readDecimal?_point ['0'] _ [] (by simpa using hsign) (by simp) (by simp) (isDigit_zeros_append hdigit k)
    endsDigits_nil rfl, rfl, ?_⟩
  have hdigits : digitsValue (['0'] ++ (List.replicate k '0' ++ ds)) = n := by
    rw [digitsValue_append, digitsValue_zeros_append, hvalue, show digitsValue ['0'] = 0 from rfl, Nat.mul_zero,
      Nat.zero_add]
  simp only [DecimalText.value, hdigits, List.length_append, List.length_replicate]
  congr 2
  omega

/-- Zeros stand between the digits and the place of the point, which may be left out. -/
theorem readsAs_append_zeros {wholeFraction : Bool} (hne : ds ≠ []) (hdigit : ∀ c ∈ ds, c.isDigit)
    (hvalue : digitsValue ds = n)
    (hsign : splitSign cs =
      (negative, ds ++ List.replicate k '0' ++ (if wholeFraction then ['.', '0'] else []))) :
    ReadsAs cs negative (n * (10 : ℚ) ^ k) := by
  have hdigits := isDigit_append_zeros hdigit k
  split at hsign
  · refine ⟨_, readDecimal?_point _ ['0'] [] hsign (by simp [hne]) hdigits (by simp) endsDigits_nil rfl, rfl, ?_⟩
    rw [DecimalText.value, digitsValue_append, digitsValue_append_zeros, hvalue]
    simp only [show digitsValue ['0'] = 0 from rfl, List.length_singleton, Nat.add_zero, Nat.cast_mul, Nat.cast_pow]
    norm_num
    ring
  · refine ⟨_, readDecimal?_whole _ [] hsign (by simp [hne]) hdigits endsDigits_nil (by simp) rfl, rfl, ?_⟩
    rw [DecimalText.value, digitsValue_append_zeros, hvalue]
    simp only [Nat.cast_mul, Nat.cast_pow, Nat.cast_ofNat, zpow_zero]
    ring

/-- The point stands among the digits. -/
theorem readsAs_take_drop (hdigit : ∀ c ∈ ds, c.isDigit) (hvalue : digitsValue ds = n) (hne : ds.take k ≠ [])
    (hsign : splitSign cs = (negative, ds.take k ++ '.' :: ds.drop k)) :
    ReadsAs cs negative (n * (10 : ℚ) ^ (-(ds.length - k : Nat) : Int)) := by
  refine ⟨_, readDecimal?_point _ _ [] (by rw [List.append_nil]; exact hsign) hne
    (fun c hc => hdigit c (List.mem_of_mem_take hc)) (fun c hc => hdigit c (List.mem_of_mem_drop hc))
    endsDigits_nil rfl, rfl, ?_⟩
  simp only [DecimalText.value, List.take_append_drop, hvalue, List.length_drop]
  congr 2
  omega

end

/-- The digits with a point at some place stand for the number that the place gives. -/
theorem readsAs_placePoint {n : Nat} {exponent : Int} {wholeFraction : Bool}
    (hsign : splitSign cs =
      (negative, placePoint (Nat.toDigits 10 n) (exponent + (Nat.toDigits 10 n).length) wholeFraction)) :
    ReadsAs cs negative (n * (10 : ℚ) ^ exponent) := by
  have hvalue := digitsValue_toDigits n
  have hdigit : ∀ c ∈ Nat.toDigits 10 n, c.isDigit := fun _ => isDigit_of_mem_toDigits
  have hne : Nat.toDigits 10 n ≠ [] := Nat.toDigits_ne_nil
  generalize Nat.toDigits 10 n = ds at hsign hvalue hdigit hne
  have hlength := List.length_pos_iff.2 hne
  simp only [placePoint] at hsign
  split at hsign
  · have h := readsAs_zeros_append hdigit hvalue hsign
    rwa [show (-((-(exponent + ds.length)).toNat + ds.length : Int)) = exponent by omega] at h
  split at hsign
  · have h := readsAs_append_zeros hne hdigit hvalue hsign
    rwa [← zpow_natCast, show (((exponent + ds.length).toNat - ds.length : Nat) : Int) = exponent by omega] at h
  · have htake : ds.take (exponent + ds.length).toNat ≠ [] := by
      rw [← List.length_pos_iff, List.length_take]
      omega
    have h := readsAs_take_drop hdigit hvalue htake hsign
    rwa [show (-(ds.length - (exponent + ds.length).toNat : Nat) : Int) = exponent by omega] at h

theorem readPower?_sign (power : Int) (signedPower : Bool) :
    readPower? ('e' :: (if power < 0 then ['-'] else if signedPower then ['+'] else []) ++
      Nat.toDigits 10 power.natAbs) = some power := by
  have hdigit : ∀ c ∈ Nat.toDigits 10 power.natAbs, c.isDigit := fun _ => isDigit_of_mem_toDigits
  have hread := readInteger?_of_digits Nat.toDigits_ne_nil hdigit
  have hneg := readInteger?_neg_of_digits Nat.toDigits_ne_nil hdigit
  rw [digitsValue_toDigits] at hread hneg
  simp only [List.cons_append, readPower?, true_or, if_true]
  split_ifs with hpower
  · rw [List.singleton_append, hneg]
    congr 1
    omega
  · rw [List.singleton_append, readInteger?, readNat?_toDigits]
    simp only [Option.map_some, Int.ofNat_eq_natCast]
    congr 1
    omega
  · rw [List.nil_append, hread]
    congr 1
    omega

/-- The digits with a power of ten stand for the number that the power gives. -/
theorem readsAs_splitPower {n : Nat} {exponent : Int} {signedPower : Bool}
    (hsign : splitSign cs =
      (negative, splitPower (Nat.toDigits 10 n) (exponent + (Nat.toDigits 10 n).length - 1) signedPower)) :
    ReadsAs cs negative (n * (10 : ℚ) ^ exponent) := by
  have hvalue := digitsValue_toDigits n
  have hdigit : ∀ c ∈ Nat.toDigits 10 n, c.isDigit := fun _ => isDigit_of_mem_toDigits
  have hne : Nat.toDigits 10 n ≠ [] := Nat.toDigits_ne_nil
  generalize Nat.toDigits 10 n = ds at hsign hvalue hdigit hne
  have hpower := readPower?_sign (exponent + ds.length - 1) signedPower
  have hmark : ∀ rest, EndsDigits ('e' :: rest) := fun _ => endsDigits_cons rfl
  match ds with
  | [] => exact absurd rfl hne
  | [d] =>
    refine ⟨_, readDecimal?_whole [d] _ (by simpa [splitPower] using hsign) (by simp) hdigit (hmark _) (by simp)
      hpower, rfl, ?_⟩
    rw [DecimalText.value, hvalue]
    simp
  | d :: d' :: ds =>
    have hhead : ∀ c ∈ [d], c.isDigit := fun c hc => hdigit c (by simp_all)
    have hfraction : ∀ c ∈ d' :: ds, c.isDigit := fun c hc => hdigit c (List.mem_cons_of_mem d hc)
    refine ⟨_, readDecimal?_point [d] _ _ (by simpa [splitPower] using hsign) (by simp) hhead hfraction (hmark _)
      hpower, rfl, ?_⟩
    rw [DecimalText.value, List.singleton_append, hvalue]
    congr 2
    simp only [List.length_cons]
    omega

/-- **Every layout writes the number of a decimal.** -/
theorem readsAs_writeDecimal (l : Layout) {d : Decimal} (hsign : splitSign cs = (negative, l.writeDecimal d)) :
    ReadsAs cs negative d.value := by
  simp only [writeDecimal] at hsign
  split_ifs at hsign
  · rw [sub_add_cancel] at hsign
    exact readsAs_placePoint hsign
  · exact readsAs_splitPower hsign

end

end Layout

/-! ### Rounding of a decimal -/

/-- The place of the leading digit tells between which powers of ten a decimal lies. -/
theorem DecimalText.magnitude_spec {d : DecimalText} (hd : 0 < d.digits) :
    (10 : ℚ) ^ (d.magnitude - 1) ≤ d.value ∧ d.value < 10 ^ d.magnitude := by
  obtain ⟨hlow, hhigh⟩ := digitCount_spec hd
  have hpower : (0 : ℚ) < 10 ^ d.power := by positivity
  have hmagnitude : d.magnitude = digitCount d.digits + d.power := rfl
  rw [hmagnitude, add_sub_right_comm, zpow_add₀ (by norm_num), zpow_add₀ (by norm_num), DecimalText.value]
  exact ⟨by gcongr, by gcongr⟩

section

variable {m : Nat} {q : Int}

theorem two_zpow_lt_of_contains {r : ℚ} (h : IsDouble m q) (hm : 0 < m) (hr : (interval m q).Contains (q - 2) r) :
    (2 : ℚ) ^ (-1200 : Int) < r := by
  have hleast := h.least_le
  simp only [leastExponent] at hleast
  have hunit : (1 : ℚ) ≤ (interval m q).low := by
    have : 1 ≤ (interval m q).low := by
      simp only [interval]
      split_ifs <;> omega
    exact_mod_cast this
  calc (2 : ℚ) ^ (-1200 : Int) < 2 ^ (q - 2) := zpow_lt_zpow_right₀ (by norm_num) (by omega)
    _ ≤ (interval m q).low * 2 ^ (q - 2) := le_mul_of_one_le_left (two_zpow_pos _).le hunit
    _ ≤ r := hr.low_le

theorem lt_two_zpow_of_contains {r : ℚ} (h : IsDouble m q) (hr : (interval m q).Contains (q - 2) r) :
    r < 2 ^ (1200 : Int) := by
  have hmost := h.le
  have hunit : ((interval m q).high : ℚ) ≤ 2 ^ 56 := by
    have hlt := h.lt
    have : (interval m q).high ≤ 2 ^ 56 := by
      simp only [interval]
      omega
    exact_mod_cast this
  calc r ≤ (interval m q).high * 2 ^ (q - 2) := hr.le_high
    _ ≤ 2 ^ 56 * 2 ^ (q - 2) := by gcongr
    _ = 2 ^ (((56 : Nat) : Int) + (q - 2)) := (two_zpow_add 56 _).symm
    _ < 2 ^ (1200 : Int) := zpow_lt_zpow_right₀ (by norm_num) (by omega)

/-- A number in the interval of a double is neither too large nor too small for a double. -/
theorem magnitude_of_contains {d : DecimalText} (h : IsDouble m q) (hm : 0 < m)
    (hr : (interval m q).Contains (q - 2) d.value) : 0 < d.digits ∧ -400 < d.magnitude ∧ d.magnitude ≤ 400 := by
  have hlow := two_zpow_lt_of_contains h hm hr
  have hhigh := lt_two_zpow_of_contains h hr
  have hpos : 0 < d.digits := by
    by_contra h0
    have hzero : d.value = 0 := by
      rw [DecimalText.value, show d.digits = 0 by omega, Nat.cast_zero, zero_mul]
    rw [hzero] at hlow
    exact absurd hlow (not_lt.2 (two_zpow_pos _).le)
  obtain ⟨hmagLow, hmagHigh⟩ := DecimalText.magnitude_spec hpos
  have hten : (2 : ℚ) ^ (1200 : Int) ≤ 10 ^ (400 : Int) := two_zpow_le_ten_zpow 400
  have hone : (1 : ℚ) < 10 := by norm_num
  refine ⟨hpos, ?_, ?_⟩
  · rw [← zpow_lt_zpow_iff_right₀ hone]
    calc (10 : ℚ) ^ (-400 : Int) ≤ 2 ^ (-1200 : Int) := by
          rw [zpow_neg, zpow_neg]
          exact inv_anti₀ (two_zpow_pos _) hten
      _ < d.value := hlow
      _ < 10 ^ d.magnitude := hmagHigh
  · have hlt : d.magnitude - 1 < 400 := by
      rw [← zpow_lt_zpow_iff_right₀ hone]
      exact hmagLow.trans_lt (hhigh.trans_le hten)
    omega

end

/-- **A decimal in the interval of a double is rounded to it.** -/
theorem DecimalText.nearest_eq {d : DecimalText} {m : Nat} {q : Int} (h : IsDouble m q) (hm : 0 < m)
    (hr : (interval m q).Contains (q - 2) d.value) : d.nearest double = assemble d.negative m q := by
  obtain ⟨hpos, hlow, hhigh⟩ := magnitude_of_contains h hm hr
  rw [DecimalText.nearest, if_neg (by omega), if_neg (by omega)]
  simp only [DecimalText.value] at hr
  simp only [Nat.pow_eq]
  split_ifs with hpower
  · refine nearest_of_contains d.negative h hm (by positivity) one_pos ?_
    convert hr using 1
    push_cast
    rw [div_one, ← zpow_natCast, Int.toNat_of_nonneg hpower]
  · refine nearest_of_contains d.negative h hm hpos (by positivity) ?_
    convert hr using 1
    push_cast
    rw [div_eq_mul_inv, ← zpow_natCast, ← zpow_neg, Int.toNat_of_nonneg (by omega), neg_neg]

theorem DecimalText.nearest_of_value_eq_zero {d : DecimalText} (h : d.value = 0) :
    d.nearest double = assemble d.negative 0 0 := by
  have hpower : (10 : ℚ) ^ d.power ≠ 0 := by positivity
  have hdigits : d.digits = 0 := by
    have := (mul_eq_zero.1 h).resolve_right hpower
    exact_mod_cast this
  rw [DecimalText.nearest, if_pos (.inl hdigits)]

/-! ### The text of a double -/

/-- Every layout begins with a digit. -/
theorem Layout.writeDecimal_eq_cons (l : Layout) (d : Decimal) :
    ∃ c cs, l.writeDecimal d = c :: cs ∧ c.isDigit := by
  have hdigit : ∀ c ∈ Nat.toDigits 10 d.digits, c.isDigit := fun _ => isDigit_of_mem_toDigits
  obtain ⟨c, ds, hds⟩ := List.exists_cons_of_ne_nil (@Nat.toDigits_ne_nil d.digits 10)
  have hc : c.isDigit := hdigit c (by rw [hds]; exact List.mem_cons_self)
  simp only [Layout.writeDecimal, hds]
  split_ifs
  · simp only [Layout.placePoint]
    split_ifs with hpoint
    · exact ⟨_, _, rfl, rfl⟩
    · exact ⟨_, _, rfl, hc⟩
    · exact ⟨_, _, rfl, hc⟩
    · obtain ⟨k, hk⟩ : ∃ k, (d.exponent + ((c :: ds).length : Int) - 1 + 1).toNat = k + 1 :=
        ⟨(d.exponent + ((c :: ds).length : Int) - 1).toNat, by omega⟩
      rw [hk]
      exact ⟨_, _, rfl, hc⟩
  · simp only [Layout.splitPower]
    cases ds with
    | nil => exact ⟨_, _, rfl, hc⟩
    | cons d' ds => exact ⟨_, _, rfl, hc⟩

/-- Words begin with a letter. -/
theorem readSpecial?_of_isDigit {c : Char} (hc : c.isDigit) (cs : List Char) : readSpecial? (c :: cs) = none := by
  have hlower : c.toLower = c := by
    have hle : c.val ≤ 57 := by
      simp only [Char.isDigit, Bool.and_eq_true, decide_eq_true_eq] at hc
      exact hc.2
    refine dif_neg fun h => ?_
    exact absurd (UInt32.le_trans h.1 hle) (by decide)
  have hne (w : String) {d : Char} {ds : List Char} (hw : w.toList = d :: ds) (hd : d.isDigit = false) :
      (c :: cs).map Char.toLower ≠ w.toList := by
    rw [hw, List.map_cons, hlower]
    intro h
    exact ne_of_isDigit hc hd (List.cons.inj h).1
  rw [readSpecial?, if_neg, if_neg]
  · exact hne "nan" rfl rfl
  · exact not_or.2 ⟨hne "inf" rfl rfl, hne "infinity" rfl rfl⟩

theorem splitSign_of_isDigit {c : Char} (hc : c.isDigit) (cs : List Char) : splitSign (c :: cs) = (false, c :: cs) := by
  unfold splitSign
  split
  · next heq => exact absurd (List.cons.inj heq).1 (ne_of_isDigit hc rfl)
  · next heq => exact absurd (List.cons.inj heq).1 (ne_of_isDigit hc rfl)
  · rfl

theorem Layout.toList_write (l : Layout) {x : Float} {negative : Bool} {m : Nat} {q : Int}
    (h : parts x = .finite negative m q) :
    (l.write x).toList = (if negative then ['-'] else []) ++ l.writeDecimal (shortest l.tie m q) := by
  rw [Layout.write, h]
  cases negative <;> simp

/-- The text of a finite double is its sign and a decimal that begins with a digit. -/
theorem exists_splitSign_write (l : Layout) {x : Float} {negative : Bool} {m : Nat} {q : Int}
    (h : parts x = .finite negative m q) : ∃ c cs, l.writeDecimal (shortest l.tie m q) = c :: cs ∧ c.isDigit ∧
      splitSign (l.write x).toList = (negative, c :: cs) := by
  obtain ⟨c, cs, hcs, hc⟩ := l.writeDecimal_eq_cons (shortest l.tie m q)
  refine ⟨c, cs, hcs, hc, ?_⟩
  rw [l.toList_write h, hcs]
  cases negative with
  | false => exact splitSign_of_isDigit hc cs
  | true => rfl

/-- **A double is read back from its text**, whatever the layout. -/
theorem readFloat?_write (l : Layout) (x : Float) : readFloat? (l.write x).toList = some x := by
  cases hx : parts x with
  | nan =>
    have hspecial : readSpecial? ['N', 'a', 'N'] = some true := by decide
    have htext : (l.write x).toList = ['N', 'a', 'N'] := by
      simp only [Layout.write, hx]
      rfl
    have hsign : splitSign ['N', 'a', 'N'] = (false, ['N', 'a', 'N']) := rfl
    rw [htext, readFloat?, hsign]
    simp only [hspecial]
    rw [nan_of_parts hx]
  | infinite negative =>
    have hspecial : readSpecial? ['i', 'n', 'f'] = some false := by decide
    have htext : (l.write x).toList = (if negative then ['-'] else []) ++ ['i', 'n', 'f'] := by
      simp only [Layout.write, hx]
      cases negative <;> rfl
    have hsign : splitSign (l.write x).toList = (negative, ['i', 'n', 'f']) := by
      rw [htext]
      cases negative <;> rfl
    rw [readFloat?, hsign]
    simp only [hspecial]
    rw [infinity_of_parts hx]
  | finite negative m q =>
    have hdouble := isDouble_of_parts hx
    -- the text is no word, and has no second sign, since the decimal begins with a digit
    obtain ⟨c, cs, hcs, hc, hsign⟩ := exists_splitSign_write l hx
    obtain ⟨d, hread, hnegative, hvalue⟩ := l.readsAs_writeDecimal (by rw [hsign, hcs])
    rw [readFloat?, hsign]
    simp only [readSpecial?_of_isDigit hc, hread, Option.map_some]
    rw [← assemble_of_parts hx, ← hnegative]
    congr 1
    -- a zero has no interval around it, but keeps its sign
    by_cases hm : m = 0
    · subst hm
      rw [DecimalText.nearest_of_value_eq_zero, assemble_zero, assemble_zero]
      rw [hvalue, shortest, if_pos rfl, Decimal.value, Nat.cast_zero, zero_mul]
    · have hpos : 0 < m := Nat.pos_of_ne_zero hm
      refine DecimalText.nearest_eq hdouble hpos ?_
      rw [hvalue]
      exact shortest_contains l.tie hdouble hpos

end SqlFormula.Number
