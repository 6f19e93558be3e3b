import SqlFormula.Parse.Expression
import SqlFormula.Proofs.Number.ReadBack
import SqlFormula.Proofs.Token.Spelling
import SqlFormula.Proofs.Value.Whole

/-!
# Numerals and what they stand for

Exactly the numerals are read as numbers, with a sign in front of them or not: digits with a point among them or not, and
an exponent or none. What is read is an integer if there is neither a point nor an exponent and the integer fits into 64
bits, else a float. What stands for a number in a formula is always a numeral.

## Main definitions

- `SignedNumeral` — a numeral with a sign in front of it or not
- `SignedNumeral.integer`, `SignedNumeral.decimal` — what it stands for
- `SignedNumeral.value` — the value that is read for it

## Main statements

- `SignedNumeral.exists_written_iff` — the decimals that are read are those of numerals
- `Lexeme.exists_numeral` — the numbers of formulas are numerals
- `numerals_read` — the texts that are read as numbers, and the numbers of formulas
-/

namespace SqlFormula

open Number

/-! ### What numerals stand for -/

/-- A sign that may be left out. -/
def IsSign (sign : Option Char) : Prop :=
  ∀ c ∈ sign, c = '+' ∨ c = '-'

/-- A number with a sign in front of it or not. -/
def withSign (sign : Option Char) (n : Nat) : Int :=
  if sign = some '-' then -n else n

/-- A numeral with a sign in front of it or not. -/
structure SignedNumeral extends Numeral where
  sign : Option Char
  isSign : IsSign sign

def Exponent.power (x : Exponent) : Int :=
  withSign x.sign (digitsValue x.digits)

/-- The power of ten of an exponent that may be left out. -/
def Numeral.power (n : Numeral) : Int :=
  n.exponent.elim 0 Exponent.power

namespace SignedNumeral

variable (n : SignedNumeral)

def written : List Char :=
  n.sign.toList ++ n.toNumeral.written

/-- There is neither a point nor an exponent. -/
def isWhole : Bool :=
  n.fraction.isNone && n.exponent.isNone

/-- The integer in front of the point. -/
def integer : Int :=
  withSign n.sign (digitsValue n.whole)

def decimal : DecimalText where
  negative := n.sign == some '-'
  digits := digitsValue (n.whole ++ n.fraction.getD [])
  power := n.power - (n.fraction.getD []).length

/-- An integer if there is neither a point nor an exponent and it fits, else the double nearest to the decimal. -/
def value : Value :=
  if n.isWhole ∧ Fits n.integer then .integer (Int64.ofInt n.integer) else .float (n.decimal.nearest double)

end SignedNumeral

/-! ### Digits with a sign -/

section

variable {cs ds : List Char} {sign : Option Char} {i : Int}

theorem signedDigits_of_isSign (hsign : IsSign sign) (hne : ds ≠ []) (hdigits : ∀ c ∈ ds, c.isDigit) :
    SignedDigits (sign.toList ++ ds) (withSign sign (digitsValue ds)) := by
  cases sign with
  | none => exact .bare hne hdigits
  | some c =>
    obtain rfl | rfl := hsign c rfl
    · exact .plus hne hdigits
    · exact .minus hne hdigits

theorem SignedDigits.exists_sign (h : SignedDigits cs i) : ∃ sign ds, IsSign sign ∧ ds ≠ [] ∧ (∀ c ∈ ds, c.isDigit) ∧
    cs = sign.toList ++ ds ∧ withSign sign (digitsValue ds) = i := by
  cases h with
  | bare hne hdigits => exact ⟨none, _, nofun, hne, hdigits, rfl, rfl⟩
  | @plus ds hne hdigits => exact ⟨some '+', ds, fun c hc => .inl (Option.some.inj hc).symm, hne, hdigits, rfl, rfl⟩
  | @minus ds hne hdigits => exact ⟨some '-', ds, fun c hc => .inr (Option.some.inj hc).symm, hne, hdigits, rfl, rfl⟩

theorem exists_sign_of_splitSign (cs : List Char) : ∃ sign, IsSign sign ∧ cs = sign.toList ++ (splitSign cs).2 ∧
    (splitSign cs).1 = (sign == some '-') := by
  unfold splitSign
  split
  · exact ⟨some '-', fun c hc => .inr (Option.some.inj hc).symm, rfl, rfl⟩
  · exact ⟨some '+', fun c hc => .inl (Option.some.inj hc).symm, rfl, rfl⟩
  · exact ⟨none, nofun, rfl, rfl⟩

end

/-! ### Decimals -/

theorem Numeral.readPower?_exponentText (n : Numeral) : readPower? n.exponentText = some n.power := by
  rw [exponentText, power]
  cases n.exponent with
  | none => rfl
  | some x =>
    rw [Option.elim_some, Option.elim_some, Exponent.written, readPower?, if_pos x.letter_mem]
    exact readInteger?_eq_some_iff.2 (signedDigits_of_isSign x.sign_mem x.digits_ne_nil x.isDigit)

theorem Numeral.splitPoint_fractionText (n : Numeral) :
    splitPoint (n.fractionText ++ n.exponentText) = (n.fraction.getD [], n.exponentText) := by
  obtain ⟨hends, hpoint⟩ := n.exponentText_append (.inl rfl)
  rw [List.append_nil] at hends hpoint
  rw [fractionText]
  cases hfraction : n.fraction with
  | none =>
    rw [Option.elim_none, List.nil_append, splitPoint]
    · rfl
    · rintro ds heq
      rw [heq] at hpoint
      exact hpoint rfl
  | some ds =>
    obtain ⟨htake, hdrop⟩ := takeWhile_isDigit (n.isDigit_fraction ds hfraction) hends
    rw [Option.elim_some, List.cons_append, splitPoint, htake, hdrop]
    rfl

namespace SignedNumeral

variable (n : SignedNumeral)

theorem splitSign_written : splitSign n.written = (n.sign == some '-', n.toNumeral.written) := by
  rw [written]
  cases hsign : n.sign with
  | none =>
    obtain ⟨c, cs, hcs, hc⟩ := n.exists_startsNumber
    rw [Option.toList_none, List.nil_append, hcs]
    obtain hdigit | ⟨rfl, -⟩ := hc
    · exact splitSign_of_isDigit hdigit cs
    · rfl
  | some c =>
    obtain rfl | rfl := n.isSign c hsign
    · rfl
    · rfl

/-- The decimal of a numeral is read. -/
theorem readDecimal?_written : readDecimal? n.written = some n.decimal := by
  have hends := n.endsDigits_fractionText (.inl rfl)
  rw [List.append_nil] at hends
  obtain ⟨htake, hdrop⟩ := takeWhile_isDigit n.isDigit_whole hends
  have hdigit : (n.whole.isEmpty && (n.fraction.getD []).isEmpty) = false := by
    obtain hwhole | ⟨ds, hds, hne⟩ := n.hasDigit
    · simp [hwhole]
    · simp [Option.mem_def.1 hds, hne]
  simp only [readDecimal?, n.splitSign_written, Numeral.written, htake, hdrop, n.splitPoint_fractionText,
    n.readPower?_exponentText, hdigit]
  rfl

theorem exists_exponent_of_readPower? {cs : List Char} {power : Int} (h : readPower? cs = some power) :
    ∃ x : Option Exponent, cs = x.elim [] Exponent.written ∧ power = x.elim 0 Exponent.power := by
  cases cs with
  | nil => exact ⟨none, rfl, (Option.some.inj h).symm⟩
  | cons c cs =>
    rw [readPower?, Option.ite_none_right_eq_some, readInteger?_eq_some_iff] at h
    obtain ⟨hletter, hpower⟩ := h
    obtain ⟨sign, ds, hsign, hne, hdigits, rfl, rfl⟩ := SignedDigits.exists_sign hpower
    exact ⟨some ⟨c, sign, ds, hletter, hsign, hne, hdigits⟩, rfl, rfl⟩

theorem exists_fraction_of_splitPoint (cs : List Char) : ∃ fraction : Option (List Char),
    (∀ ds ∈ fraction, ∀ c ∈ ds, c.isDigit) ∧ cs = fraction.elim [] ('.' :: ·) ++ (splitPoint cs).2 ∧
      (splitPoint cs).1 = fraction.getD [] := by
  unfold splitPoint
  split
  · next cs =>
    refine ⟨some (cs.takeWhile Char.isDigit), ?_, ?_, rfl⟩
    · rintro ds ⟨⟩ c hc
      exact List.mem_takeWhile_imp hc
    · exact congrArg ('.' :: ·) List.takeWhile_append_dropWhile.symm
  · exact ⟨none, nofun, rfl, rfl⟩

/-- **The decimals that are read are those of numerals.** -/
theorem exists_written_iff {cs : List Char} {d : DecimalText} :
    readDecimal? cs = some d ↔ ∃ n : SignedNumeral, cs = n.written ∧ n.decimal = d := by
  constructor
  · intro h
    obtain ⟨sign, hsign, hcs, hnegative⟩ := exists_sign_of_splitSign cs
    obtain ⟨fraction, hfraction, hpoint, hdigits⟩ :=
      exists_fraction_of_splitPoint ((splitSign cs).2.dropWhile Char.isDigit)
    simp only [readDecimal?, Option.ite_none_left_eq_some, Option.map_eq_some_iff] at h
    obtain ⟨hdigit, power, hpower, rfl⟩ := h
    obtain ⟨x, hexponent, rfl⟩ := exists_exponent_of_readPower? hpower
    rw [hdigits] at hdigit
    have hsome : (splitSign cs).2.takeWhile Char.isDigit ≠ [] ∨ ∃ ds ∈ fraction, ds ≠ [] := by
      rw [Bool.and_eq_true, List.isEmpty_iff, List.isEmpty_iff, not_and_or] at hdigit
      refine hdigit.imp_right fun hne => ?_
      cases fraction with
      | none => exact absurd rfl hne
      | some ds => exact ⟨ds, rfl, hne⟩
    -- the parts that are read are those of a numeral
    refine ⟨{ whole := (splitSign cs).2.takeWhile Char.isDigit, fraction, exponent := x, sign, isSign := hsign,
              isDigit_whole := fun c hc => List.mem_takeWhile_imp hc, isDigit_fraction := hfraction,
              hasDigit := hsome }, ?_, ?_⟩
    · rw [written, Numeral.written, Numeral.fractionText, Numeral.exponentText]
      dsimp only
      rw [← hexponent, ← hpoint, List.takeWhile_append_dropWhile]
      exact hcs
    · rw [decimal, Numeral.power, hnegative, hdigits]
  · rintro ⟨n, rfl, rfl⟩
    exact n.readDecimal?_written

/-! ### Integers -/

/-- The numerals of integers are those without a point and an exponent. -/
theorem signedDigits_iff {cs : List Char} {i : Int} :
    SignedDigits cs i ↔ ∃ n : SignedNumeral, cs = n.written ∧ n.isWhole ∧ n.integer = i := by
  constructor
  · intro h
    obtain ⟨sign, ds, hsign, hne, hdigits, rfl, hi⟩ := SignedDigits.exists_sign h
    refine ⟨{ whole := ds, fraction := none, exponent := none, sign, isSign := hsign, isDigit_whole := hdigits,
              isDigit_fraction := nofun, hasDigit := .inl hne }, ?_, rfl, hi⟩
    exact congrArg (sign.toList ++ ·) (List.append_nil ds).symm
  · rintro ⟨n, rfl, hwhole, rfl⟩
    rw [isWhole, Bool.and_eq_true, Option.isNone_iff_eq_none, Option.isNone_iff_eq_none] at hwhole
    have hne : n.whole ≠ [] := by
      obtain hne | ⟨ds, hds, -⟩ := n.hasDigit
      · exact hne
      · rw [hwhole.1] at hds
        cases hds
    have hwritten : n.written = n.sign.toList ++ n.whole := by
      rw [written, Numeral.written, Numeral.fractionText, Numeral.exponentText, hwhole.1, hwhole.2]
      simp
    rw [hwritten]
    exact signedDigits_of_isSign n.isSign hne n.isDigit_whole

/-- A point or an exponent is seen. -/
theorem exists_mark (h : n.isWhole = false) : ∃ c ∈ n.written, c = '.' ∨ c = 'e' ∨ c = 'E' := by
  rw [isWhole, Bool.and_eq_false_iff, Option.isNone_eq_false_iff, Option.isNone_eq_false_iff, Option.isSome_iff_exists,
    Option.isSome_iff_exists] at h
  obtain ⟨ds, hds⟩ | ⟨x, hx⟩ := h
  · refine ⟨'.', ?_, .inl rfl⟩
    simp [written, Numeral.written, Numeral.fractionText, hds]
  · refine ⟨x.letter, ?_, .inr x.letter_mem⟩
    simp [written, Numeral.written, Numeral.exponentText, Exponent.written, hx]

theorem readInt64?_of_mark {cs : List Char} (h : ∃ c ∈ cs, c = '.' ∨ c = 'e' ∨ c = 'E') : readInt64? cs = none := by
  obtain ⟨c, hmem, hc⟩ := h
  rw [Option.eq_none_iff_forall_ne_some]
  intro k hk
  have hchar := (readInt64?_eq_some_iff.1 hk).isDigit_or_sign hmem
  revert hchar
  obtain rfl | rfl | rfl := hc <;> decide

theorem readInt64?_written :
    readInt64? n.written = if n.isWhole ∧ Fits n.integer then some (Int64.ofInt n.integer) else none := by
  by_cases hwhole : n.isWhole
  · have hread : readInteger? n.written = some n.integer :=
      readInteger?_eq_some_iff.2 (signedDigits_iff.2 ⟨n, rfl, hwhole, rfl⟩)
    simp only [readInt64?, hread, Option.bind_some, int64?, hwhole, true_and]
  · rw [readInt64?_of_mark (n.exists_mark (Bool.eq_false_iff.2 hwhole)), if_neg (fun h => hwhole h.1)]

/-! ### Values -/

theorem isNumeralChar_of_mem {c : Char} (h : c ∈ n.written) : isNumeralChar c := by
  have hdigit {c : Char} (hc : c.isDigit = true) : isNumeralChar c := by simp [isNumeralChar, hc]
  have hsign {sign : Option Char} (h : IsSign sign) (hc : c ∈ sign) : isNumeralChar c := by
    obtain rfl | rfl := h c hc <;> rfl
  simp only [written, Numeral.written, List.mem_append, Option.mem_toList] at h
  obtain hc | hc | hc | hc := h
  · exact hsign n.isSign hc
  · exact hdigit (n.isDigit_whole c hc)
  · cases hfraction : n.fraction with
    | none => simp [Numeral.fractionText, hfraction] at hc
    | some ds =>
      rw [Numeral.fractionText, hfraction, Option.elim_some, List.mem_cons] at hc
      obtain rfl | hc := hc
      · rfl
      · exact hdigit (n.isDigit_fraction ds hfraction c hc)
  · cases hexponent : n.exponent with
    | none => simp [Numeral.exponentText, hexponent] at hc
    | some x =>
      rw [Numeral.exponentText, hexponent, Option.elim_some, Exponent.written, List.mem_cons, List.mem_append,
        Option.mem_toList] at hc
      obtain rfl | hc | hc := hc
      · obtain hletter | hletter := x.letter_mem <;> rw [hletter] <;> rfl
      · exact hsign x.sign_mem hc
      · exact hdigit (x.isDigit c hc)

theorem exists_isDigit : ∃ c ∈ n.written, c.isDigit := by
  obtain hne | ⟨ds, hfraction, hne⟩ := n.hasDigit
  · obtain ⟨c, cs, hcs⟩ := List.exists_cons_of_ne_nil hne
    refine ⟨c, ?_, n.isDigit_whole c (hcs ▸ List.mem_cons_self)⟩
    simp [written, Numeral.written, hcs]
  · obtain ⟨c, cs, rfl⟩ := List.exists_cons_of_ne_nil hne
    refine ⟨c, ?_, n.isDigit_fraction _ hfraction c List.mem_cons_self⟩
    simp [written, Numeral.written, Numeral.fractionText, Option.mem_def.1 hfraction]

theorem parseDecimal?_written : parseDecimal? n.written = some (.float (n.decimal.nearest double)) := by
  have hall : n.written.all isNumeralChar = true := List.all_eq_true.2 fun c hc => n.isNumeralChar_of_mem hc
  have hany : n.written.any Char.isDigit = true := List.any_eq_true.2 n.exists_isDigit
  rw [parseDecimal?, hall, hany, n.readDecimal?_written]
  rfl

theorem value_eq_integer_iff {i : Int64} : n.value = .integer i ↔ n.isWhole ∧ n.integer = i.toInt := by
  rw [value, ← int64?_eq_some_iff, int64?]
  split_ifs with h hfits <;> simp_all

theorem value_eq_float_iff {x : Float} :
    n.value = .float x ↔ ¬(n.isWhole ∧ Fits n.integer) ∧ n.decimal.nearest double = x := by
  rw [value]
  split_ifs with h
  · exact ⟨nofun, fun hx => absurd h hx.1⟩
  · rw [Value.float.injEq, and_iff_right h]

theorem trimBlanks_written : Text.trimBlanks n.written = n.written := by
  have hblank {c : Char} (hc : c ∈ n.written) : Text.isBlank c = false := by
    have hchar := n.isNumeralChar_of_mem hc
    simp only [isNumeralChar, Bool.or_eq_true, beq_iff_eq] at hchar
    obtain ((((hdigit | rfl) | rfl) | rfl) | rfl) | rfl := hchar
    · exact isBlank_of_isDigit hdigit
    all_goals decide
  exact Text.trimBlanks_eq_self (fun c hc => hblank (List.mem_of_mem_head? hc))
    fun c hc => hblank (List.mem_of_mem_getLast? hc)

end SignedNumeral

open SignedNumeral

/-- Numerals, and nothing else, are read as numbers. -/
theorem parseNumber?_eq_some_iff {s : String} {v : Value} : parseNumber? s = some v ↔
    ∃ n : SignedNumeral, (Text.trim s).toList = n.written ∧ n.value = v := by
  rw [Text.trim, String.toList_ofList]
  -- where a numeral is read, its value is
  have hvalue (n : SignedNumeral) (h : Text.trimBlanks s.toList = n.written) : parseNumber? s = some n.value := by
    rw [parseNumber?, h, n.readInt64?_written, n.parseDecimal?_written, value]
    split_ifs <;> rfl
  constructor
  · intro h
    have hread := h
    rw [parseNumber?] at hread
    suffices ∃ n : SignedNumeral, Text.trimBlanks s.toList = n.written by
      obtain ⟨n, hn⟩ := this
      exact ⟨n, hn, Option.some.inj ((hvalue n hn).symm.trans h)⟩
    split at hread
    · next i hi =>
      obtain ⟨n, hn, -⟩ := signedDigits_iff.1 (readInt64?_eq_some_iff.1 hi)
      exact ⟨n, hn⟩
    · rw [parseDecimal?, Option.ite_none_right_eq_some, Option.map_eq_some_iff] at hread
      obtain ⟨-, d, hd, -⟩ := hread
      obtain ⟨n, hn, -⟩ := exists_written_iff.1 hd
      exact ⟨n, hn⟩
  · rintro ⟨n, hn, rfl⟩
    exact hvalue n hn

/-! ### Numbers in formulas -/

/-- A number in a formula stands for the value of its numeral. -/
theorem SignedNumeral.numberValue_eq (n : SignedNumeral) {t : Token} {negative : Bool}
    (h : (if negative then '-' :: t.text.toList else t.text.toList) = n.written) :
    Parser.numberValue t negative = .ok n.value := by
  have hinteger : (if Parser.isFloatText n.written then none else readInt64? n.written) = readInt64? n.written := by
    split
    · next hmark =>
      refine (readInt64?_of_mark ?_).symm
      simpa [Parser.isFloatText, or_assoc] using hmark
    · rfl
  simp only [Parser.numberValue, h]
  rw [hinteger, n.readInt64?_written, n.readDecimal?_written, value]
  split_ifs <;> rfl

namespace Lexeme

theorem exists_exponent_of_splitExponent (cs : List Char) :
    ∃ x : Option Exponent, (splitExponent cs).1 = x.elim [] Exponent.written := by
  fun_cases splitExponent cs with
  | case1 | case4 | case5 | case6 => exact ⟨none, rfl⟩
  | case2 e he d ds hd =>
    refine ⟨some ⟨e, none, (d :: ds).takeWhile Char.isDigit, he, ?_, ?_, fun c hc => List.mem_takeWhile_imp hc⟩, rfl⟩
    · rintro c ⟨⟩
    · rw [List.takeWhile_cons, if_pos hd]
      exact List.cons_ne_nil _ _
  | case3 e he d ds hd hsign =>
    refine ⟨some ⟨e, some d, ds.takeWhile Char.isDigit, he, ?_, ?_, fun c hc => List.mem_takeWhile_imp hc⟩, rfl⟩
    · rintro c ⟨⟩
      exact hsign.1
    · exact startsWithDigit_iff.1 hsign.2

theorem exists_fraction_of_splitFraction (cs : List Char) : ∃ fraction : Option (List Char),
    (∀ ds ∈ fraction, ∀ c ∈ ds, c.isDigit) ∧ (splitFraction cs).1 = fraction.elim [] ('.' :: ·) ∧
      ∀ ds, cs = '.' :: ds → fraction = some (ds.takeWhile Char.isDigit) := by
  unfold splitFraction
  split
  · next cs =>
    refine ⟨some (cs.takeWhile Char.isDigit), ?_, rfl, ?_⟩
    · rintro ds ⟨⟩ c hc
      exact List.mem_takeWhile_imp hc
    · rintro ds ⟨⟩
      rfl
  · next hpoint => exact ⟨none, nofun, rfl, fun ds h => absurd h (hpoint ds)⟩

/-- What is taken for a number is a numeral. -/
theorem exists_numeral {c : Char} {cs : List Char} (h : startsNumber c cs = true) :
    ∃ n : Numeral, (number (c :: cs)).text = n.written := by
  obtain ⟨fraction, hfraction, htext, hpoint⟩ := exists_fraction_of_splitFraction ((c :: cs).dropWhile Char.isDigit)
  obtain ⟨x, hexponent⟩ :=
    exists_exponent_of_splitExponent (splitFraction ((c :: cs).dropWhile Char.isDigit)).2
  have hdigit : (c :: cs).takeWhile Char.isDigit ≠ [] ∨ ∃ ds ∈ fraction, ds ≠ [] := by
    rw [startsNumber, Bool.or_eq_true, Bool.and_eq_true, beq_iff_eq] at h
    obtain hc | ⟨rfl, hstart⟩ := h
    · refine .inl ?_
      rw [List.takeWhile_cons, if_pos hc]
      exact List.cons_ne_nil _ _
    · exact .inr ⟨_, hpoint cs rfl, startsWithDigit_iff.1 hstart⟩
  refine ⟨{ whole := (c :: cs).takeWhile Char.isDigit, fraction, exponent := x,
            isDigit_whole := fun c hc => List.mem_takeWhile_imp hc, isDigit_fraction := hfraction,
            hasDigit := hdigit }, ?_⟩
  rw [number, Numeral.written, Numeral.fractionText, Numeral.exponentText, ← hexponent, ← htext]
  exact List.append_assoc _ _ _

/-- Only numbers are taken for numbers. -/
theorem startsNumber_of_read {c : Char} {cs : List Char} {l : Lexeme} (h : read c cs = .ok l) (hkind : l.kind = .number) :
    startsNumber c cs = true ∧ l = number (c :: cs) := by
  -- every other branch gives a token of another kind
  have hliteral {kind : Token.Kind} {close : Char} {ds : List Char} (h : delimited kind close ds = .ok l)
      (hne : kind ≠ .number) : False := by
    rw [delimited] at h
    split at h
    · cases h
      exact hne hkind
    · cases h
  rw [read_eq] at h
  split_ifs at h with hnumber hblob
  · exact ⟨hnumber, (Except.ok.inj h).symm⟩
  · exact (hliteral h (by decide)).elim
  · rw [readPlain] at h
    split_ifs at h
    · exact (hliteral h (by decide)).elim
    · exact (hliteral h (by decide)).elim
    · exact (hliteral h (by decide)).elim
    · exact (hliteral h (by decide)).elim
    · cases h
      cases hkind
    · cases h
      rw [symbol.eq_def] at hkind
      split at hkind
      · cases hkind
      · split at hkind <;> cases hkind

end Lexeme

/-- The numbers among the tokens of a text are numerals. -/
theorem exists_numeral_of_mem {text : String} {ts : List Token} (h : tokenize text = .ok ts) :
    ∀ t ∈ ts, t.kind = .number → ∃ n : Numeral, t.text.toList = n.written := by
  refine tokensFrom_induction (fun _ _ => List.forall_mem_nil _) (fun cs c after l others _ hread _ ih => ?_) h
  refine List.forall_mem_cons.2 ⟨fun hkind => ?_, ih⟩
  obtain ⟨hstart, rfl⟩ := Lexeme.startsNumber_of_read hread hkind
  obtain ⟨n, hn⟩ := Lexeme.exists_numeral hstart
  exact ⟨n, (String.toList_ofList).trans hn⟩

/-- A numeral with a minus sign in front of it or none. -/
def Numeral.withMinus (n : Numeral) (negative : Bool) : SignedNumeral :=
  { n with
    sign := if negative then some '-' else none
    isSign := by
      cases negative with
      | false => exact nofun
      | true => exact fun c hc => .inr (Option.some.inj hc).symm }

/-- A number among the tokens of a text stands for a value, with a minus sign in front of it and without one: the value
that is read for it outside of formulas. -/
theorem exists_numberValue_of_mem {text : String} {ts : List Token} (h : tokenize text = .ok ts) {t : Token}
    (ht : t ∈ ts) (hkind : t.kind = .number) (negative : Bool) : ∃ v, Parser.numberValue t negative = .ok v ∧
      parseNumber? (if negative then "-" ++ t.text else t.text) = some v := by
  obtain ⟨n, hn⟩ := exists_numeral_of_mem h t ht hkind
  have hchars : (if negative then '-' :: t.text.toList else t.text.toList) = (n.withMinus negative).written := by
    cases negative with
    | false => exact hn
    | true => exact congrArg ('-' :: ·) hn
  refine ⟨_, (n.withMinus negative).numberValue_eq hchars, parseNumber?_eq_some_iff.2 ⟨_, ?_, rfl⟩⟩
  rw [Text.trim, String.toList_ofList, apply_ite String.toList, String.toList_append]
  exact (congrArg Text.trimBlanks hchars).trans (trimBlanks_written _)

/-- **Exactly the numerals are read as numbers**, with blanks around them or not: as an integer if there is neither a point
nor an exponent and it fits into 64 bits, else as the double nearest to the decimal. Every number among the tokens of a
text stands for a value, also with a minus sign in front of it: the one that is read for it outside of formulas. -/
theorem numerals_read (s text : String) :
    ((parseNumber? s).isSome ↔ ∃ n : SignedNumeral, (Text.trim s).toList = n.written) ∧
      (∀ i, parseNumber? s = some (.integer i) ↔
        ∃ n : SignedNumeral, (Text.trim s).toList = n.written ∧ n.isWhole ∧ n.integer = i.toInt) ∧
      (∀ x, parseNumber? s = some (.float x) ↔
        ∃ n : SignedNumeral, (Text.trim s).toList = n.written ∧ ¬(n.isWhole ∧ Fits n.integer) ∧
          n.decimal.nearest double = x) ∧
      (∀ v, parseNumber? s = some v → (∃ i, v = .integer i) ∨ ∃ x, v = .float x) ∧
      ∀ ts, tokenize text = .ok ts → ∀ t ∈ ts, t.kind = .number → ∀ negative : Bool,
        ∃ v, Parser.numberValue t negative = .ok v ∧
          parseNumber? (if negative then "-" ++ t.text else t.text) = some v := by
  refine ⟨?_, fun i => ?_, fun x => ?_, fun v hv => parseNumber?_cases hv,
    fun ts hts t ht hkind negative => exists_numberValue_of_mem hts ht hkind negative⟩
  · rw [Option.isSome_iff_exists]
    simp only [parseNumber?_eq_some_iff]
    exact ⟨fun ⟨_, n, hn, _⟩ => ⟨n, hn⟩, fun ⟨n, hn⟩ => ⟨n.value, n, hn, rfl⟩⟩
  · simp only [parseNumber?_eq_some_iff, value_eq_integer_iff]
  · simp only [parseNumber?_eq_some_iff, value_eq_float_iff]

/-- A number that starts with a point and ends in front of an `e` that is no exponent. -/
theorem numerals_read_minus :
    tokenize "-.5e-3e" = .ok [⟨.symbol, "-", 0⟩, ⟨.number, ".5e-3", 1⟩, ⟨.word, "e", 6⟩] ∧
      ((∃ i, Value.integer 12 = .integer i) ∨ ∃ x, Value.integer 12 = .float x) ∧
      ∃ v, Parser.numberValue ⟨.number, ".5e-3", 1⟩ true = .ok v ∧ parseNumber? "-.5e-3" = some v := by
  have htokens : tokenize "-.5e-3e" = .ok [⟨.symbol, "-", 0⟩, ⟨.number, ".5e-3", 1⟩, ⟨.word, "e", 6⟩] := by
    decide +kernel
  have hparse : parseNumber? "\t+12\n" = some (.integer 12) := rfl
  obtain ⟨-, -, -, hcases, hnumbers⟩ := numerals_read "\t+12\n" "-.5e-3e"
  exact ⟨htokens, hcases _ hparse, hnumbers _ htokens _ (by simp) rfl true⟩

end SqlFormula
