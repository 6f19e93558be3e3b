import SqlFormula.Proofs.Number.Numeral
import SqlFormula.Proofs.Text.Letter
import SqlFormula.Value.Number

/-!
# Values that count as integers

A boolean counts as 1 or 0. A text counts as an integer if it is a numeral without a point and without an exponent, with a
sign or not and with blanks around it or not, and the integer fits into 64 bits; then, and only then, it is read as one.

## Main definitions

- `Number.SignedDigits`, `IntegerText` — numerals of integers, and texts of them
- `Value.whole?` — the integer that a value counts as
- `Value.StandsFor` — the same without a reader

## Main statements

- `parseNumber?_eq_integer_iff` — the texts that are read as integers
- `Value.standsFor_iff` — the values that count as integers
-/

namespace SqlFormula

namespace Number

/-- A numeral of an integer: digits, with a sign before them or not. -/
inductive SignedDigits : List Char → Int → Prop
  | bare {cs : List Char} (hne : cs ≠ []) (h : ∀ c ∈ cs, c.isDigit) : SignedDigits cs (digitsValue cs)
  | plus {cs : List Char} (hne : cs ≠ []) (h : ∀ c ∈ cs, c.isDigit) : SignedDigits ('+' :: cs) (digitsValue cs)
  | minus {cs : List Char} (hne : cs ≠ []) (h : ∀ c ∈ cs, c.isDigit) : SignedDigits ('-' :: cs) (-(digitsValue cs : Int))

theorem readNat?_eq_some_iff {cs : List Char} {n : Nat} :
    readNat? cs = some n ↔ cs ≠ [] ∧ (∀ c ∈ cs, c.isDigit) ∧ digitsValue cs = n := by
  constructor
  · intro h
    rw [readNat?, Option.ite_none_left_eq_some, Bool.or_eq_true, Bool.not_eq_true', not_or, Bool.not_eq_false,
      List.isEmpty_iff, List.all_eq_true] at h
    exact ⟨h.1.1, h.1.2, Option.some.inj h.2⟩
  · rintro ⟨hne, hdigits, rfl⟩
    exact readNat?_eq_some hne hdigits

/-- Numerals of integers, and nothing else, are read. -/
theorem readInteger?_eq_some_iff {cs : List Char} {i : Int} : readInteger? cs = some i ↔ SignedDigits cs i := by
  constructor
  · intro h
    unfold readInteger? at h
    split at h
    · obtain ⟨n, hn, rfl⟩ := Option.map_eq_some_iff.1 h
      obtain ⟨hne, hdigits, rfl⟩ := readNat?_eq_some_iff.1 hn
      exact .plus hne hdigits
    · obtain ⟨i, hi, rfl⟩ := Option.map_eq_some_iff.1 h
      obtain ⟨n, hn, hni⟩ := Option.bind_eq_some_iff.1 hi
      obtain rfl : (n : Int) = i := Option.some.inj hni
      obtain ⟨hne, hdigits, rfl⟩ := readNat?_eq_some_iff.1 hn
      exact .minus hne hdigits
    · obtain ⟨n, hn, rfl⟩ := Option.map_eq_some_iff.1 h
      obtain ⟨hne, hdigits, rfl⟩ := readNat?_eq_some_iff.1 hn
      exact .bare hne hdigits
  · intro h
    cases h with
    | bare hne hdigits => exact readInteger?_of_digits hne hdigits
    | plus hne hdigits => rw [readInteger?, readNat?_eq_some hne hdigits, Option.map_some]; rfl
    | minus hne hdigits => exact readInteger?_neg_of_digits hne hdigits

theorem SignedDigits.ne_nil {cs : List Char} {i : Int} (h : SignedDigits cs i) : cs ≠ [] := by
  cases h with
  | bare hne => exact hne
  | plus | minus => exact List.cons_ne_nil _ _

theorem SignedDigits.isDigit_or_sign {cs : List Char} {i : Int} (h : SignedDigits cs i) {c : Char} (hc : c ∈ cs) :
    c.isDigit ∨ c = '+' ∨ c = '-' := by
  cases h with
  | bare _ hdigits => exact .inl (hdigits c hc)
  | plus _ hdigits =>
    obtain rfl | hc := List.mem_cons.1 hc
    · exact .inr (.inl rfl)
    · exact .inl (hdigits c hc)
  | minus _ hdigits =>
    obtain rfl | hc := List.mem_cons.1 hc
    · exact .inr (.inr rfl)
    · exact .inl (hdigits c hc)

theorem SignedDigits.not_isBlank {cs : List Char} {i : Int} (h : SignedDigits cs i) :
    ∀ c ∈ cs, Text.isBlank c = false := by
  intro c hc
  obtain hdigit | rfl | rfl := h.isDigit_or_sign hc
  · exact isBlank_of_isDigit hdigit
  · decide
  · decide

theorem int64?_eq_some_iff {i : Int} {k : Int64} : int64? i = some k ↔ i = k.toInt := by
  constructor
  · intro h
    by_cases hfits : Fits i
    · obtain ⟨j, hj, rfl⟩ := exists_int64? hfits
      rw [Option.some.inj (hj.symm.trans h)]
    · rw [int64?, if_neg hfits] at h
      cases h
  · rintro rfl
    exact int64?_toInt k

theorem readInt64?_eq_some_iff {cs : List Char} {k : Int64} : readInt64? cs = some k ↔ SignedDigits cs k.toInt := by
  rw [readInt64?, Option.bind_eq_some_iff]
  simp only [readInteger?_eq_some_iff, int64?_eq_some_iff]
  exact exists_eq_right

/-- Integers have no point. -/
theorem readInt64?_of_point_mem {cs : List Char} (h : '.' ∈ cs) : readInt64? cs = none := by
  rw [Option.eq_none_iff_forall_ne_some]
  intro k hk
  have hchar := (readInt64?_eq_some_iff.1 hk).isDigit_or_sign h
  revert hchar
  decide

end Number

open Number (SignedDigits)

/-- The text of an integer: a numeral, with blanks around it or not. -/
def IntegerText (s : String) (i : Int) : Prop :=
  ∃ before numeral after, s.toList = before ++ numeral ++ after ∧ (∀ c ∈ before, Text.isBlank c) ∧
    (∀ c ∈ after, Text.isBlank c) ∧ SignedDigits numeral i

section

variable {s : String} {i : Int64}

theorem readInt64?_trimBlanks_iff : Number.readInt64? (Text.trimBlanks s.toList) = some i ↔ IntegerText s i.toInt := by
  rw [Number.readInt64?_eq_some_iff]
  constructor
  · intro h
    obtain ⟨before, after, hs, hbefore, hafter⟩ := Text.exists_trimBlanks s.toList
    exact ⟨before, _, after, hs, hbefore, hafter, h⟩
  · rintro ⟨before, numeral, after, hs, hbefore, hafter, h⟩
    have hfirst : ∀ c ∈ numeral.head?, Text.isBlank c = false :=
      fun c hc => h.not_isBlank c (List.mem_of_mem_head? hc)
    have hlast : ∀ c ∈ numeral.getLast?, Text.isBlank c = false :=
      fun c hc => h.not_isBlank c (List.mem_of_mem_getLast? hc)
    rwa [hs, Text.trimBlanks_between hbefore hafter h.ne_nil hfirst hlast]

theorem exists_float_of_parseDecimal? {cs : List Char} {v : Value} (h : parseDecimal? cs = some v) : ∃ x, v = .float x := by
  rw [parseDecimal?, Option.ite_none_right_eq_some, Option.map_eq_some_iff] at h
  obtain ⟨-, d, -, rfl⟩ := h
  exact ⟨_, rfl⟩

/-- What is read from a text is an integer or a float. -/
theorem parseNumber?_cases {v : Value} (h : parseNumber? s = some v) : (∃ i, v = .integer i) ∨ ∃ x, v = .float x := by
  rw [parseNumber?] at h
  split at h
  · exact .inl ⟨_, (Option.some.inj h).symm⟩
  · exact .inr (exists_float_of_parseDecimal? h)

/-- **Texts of integers that fit into 64 bits, and no others, are read as integers.** -/
theorem parseNumber?_eq_integer_iff : parseNumber? s = some (.integer i) ↔ IntegerText s i.toInt := by
  rw [← readInt64?_trimBlanks_iff, parseNumber?]
  split
  · next j hj => rw [hj, Option.some.injEq, Option.some.injEq, Value.integer.injEq]
  · next hnone =>
    rw [hnone]
    refine iff_of_false (fun h => ?_) nofun
    obtain ⟨x, hx⟩ := exists_float_of_parseDecimal? h
    cases hx

theorem parseNumber?_toString (i : Int64) : parseNumber? (toString i.toInt) = some (.integer i) := by
  have hdigits : SignedDigits (toString i.toInt).toList i.toInt :=
    Number.readInteger?_eq_some_iff.1 (Number.readInteger?_toString i.toInt)
  exact parseNumber?_eq_integer_iff.2 ⟨[], _, [], (List.append_nil _).symm, nofun, nofun, hdigits⟩

end

namespace Value

/-- The integer that a value counts as: an integer, a boolean, or the text of an integer with blanks around it or not. -/
def whole? : Value → Option Int64
  | .integer i => some i
  | .boolean b => some (if b then 1 else 0)
  | .text s => Number.readInt64? (Text.trimBlanks s.toList)
  | _ => none

/-- A value stands for an integer: the integer itself, a boolean for 1 or 0, or a text for what it says. -/
inductive StandsFor : Value → Int64 → Prop
  | integer (i : Int64) : StandsFor (.integer i) i
  | boolean (b : Bool) : StandsFor (.boolean b) (if b then 1 else 0)
  | text {s : String} {i : Int64} (h : IntegerText s i.toInt) : StandsFor (.text s) i

section

variable {v : Value} {i : Int64}

theorem standsFor_iff : v.StandsFor i ↔ v.whole? = some i := by
  constructor
  · intro h
    cases h with
    | integer | boolean => rfl
    | text h => exact readInt64?_trimBlanks_iff.2 h
  · intro h
    cases v with
    | integer j =>
      obtain rfl := Option.some.inj h
      exact .integer j
    | boolean b =>
      obtain rfl := Option.some.inj h
      exact .boolean b
    | text s => exact .text (readInt64?_trimBlanks_iff.1 h)
    | _ => cases h

theorem toNumber?_of_whole? (h : v.whole? = some i) : v.toNumber? = some (.integer i) := by
  cases v with
  | integer j => exact congrArg _ (congrArg _ (Option.some.inj h))
  | boolean b => exact congrArg _ (congrArg _ (Option.some.inj h))
  | text s =>
    rw [whole?] at h
    rw [toNumber?, parseNumber?, h]
  | _ => cases h

theorem isNull_of_whole? (h : v.whole? = some i) : v.isNull = false := by
  cases v with
  | null => cases h
  | _ => rfl

end

end Value

end SqlFormula
