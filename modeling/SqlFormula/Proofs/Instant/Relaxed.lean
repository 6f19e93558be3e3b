import SqlFormula.Proofs.Instant.ReadBack

/-!
# Instants in the relaxed notation

The standard text of an instant has a sign before a year outside of 0 to 9999, which the strict notation does not
allow. The relaxed notation does, so there every instant is read back.

## Main statements

- `DateReader.run_looseYear` — a year is read back, with its sign if it has one
- `Instant.readRelaxed_rfc3339` — every instant is read back
-/

namespace SqlFormula

namespace DateReader

open Reader Number

variable {stop : Nat} {rest : List Char}

/-! ### Parts -/

/-- Where no blank comes next, none is skipped. -/
theorem run_blanks_of_not {c : Char} (h : Text.isBlank c = false) :
    blanks.run stop (c :: rest) = (.ok (), c :: rest) := by
  rw [blanks, run_bind_ok (run_takeWhile _), List.dropWhile_cons_of_neg (by rw [h]; decide)]
  rfl

theorem run_blanks_padded (width n : Nat) :
    blanks.run stop (padded width n ++ rest) = (.ok (), padded width n ++ rest) := by
  obtain ⟨c, cs, hcs⟩ := List.exists_cons_of_ne_nil (padded_ne_nil width n)
  have hc : c.isDigit := isDigit_of_mem_padded (by rw [hcs]; exact List.mem_cons_self)
  rw [hcs, List.cons_append]
  exact run_blanks_of_not (isBlank_of_isDigit hc)

theorem run_looseNumber {least most n : Nat} (hn : n < 10 ^ 2) (hleast : least ≤ n) (hmost : n ≤ most)
    (hrest : EndsDigits rest) : (looseNumber least most).run stop (padded 2 n ++ rest) = (.ok n, rest) := by
  have hdigit : ∀ c ∈ padded 2 n, c.isDigit := fun _ => isDigit_of_mem_padded
  have hlength : (padded 2 n).length = 2 := length_padded (by decide) hn
  have hnumber : (digits 1 (some 2)).run stop (padded 2 n ++ rest) = (.ok n, rest) :=
    run_digits hdigit (digitsValue_padded 2 n) (by omega) (by omega) (by rintro _ ⟨⟩; omega) fun _ => hrest
  rw [looseNumber, run_bind_ok (run_blanks_padded 2 n), between, run_bind_ok hnumber, if_pos ⟨hleast, hmost⟩]
  rfl

theorem run_spacedMark {c : Char} (h : Text.isBlank c = false) :
    (spacedMark c).run stop (c :: rest) = (.ok (), rest) := by
  rw [spacedMark, run_bind_ok (run_blanks_of_not h)]
  exact run_mark List.mem_cons_self stop rest

section

variable {n : Nat} {cs : List Char}

theorem run_looseYear_minus (hdigits : (digits 1 none).run stop cs = (.ok n, rest)) (hn : n ≤ 2147483648) :
    looseYear.run stop ('-' :: cs) = (.ok (-(n : Int)), rest) := by
  rw [looseYear, run_bind_ok (run_blanks_of_not (by decide)), run_bind_ok run_peek?]
  simp only [List.head?_cons]
  rw [run_bind_ok (run_skip 1), List.drop_succ_cons, List.drop_zero, run_bind_ok hdigits, run_bind_ok (run_pure _),
    if_pos (by omega)]
  rfl

theorem run_looseYear_plus (hdigits : (digits 1 none).run stop cs = (.ok n, rest)) (hn : n ≤ 2147483647) :
    looseYear.run stop ('+' :: cs) = (.ok (n : Int), rest) := by
  rw [looseYear, run_bind_ok (run_blanks_of_not (by decide)), run_bind_ok run_peek?]
  simp only [List.head?_cons]
  rw [run_bind_ok (run_skip 1), List.drop_succ_cons, List.drop_zero, run_bind_ok hdigits, run_bind_ok (run_pure _),
    if_pos (by omega)]
  rfl

theorem run_looseYear_digit {c : Char} (hc : c.isDigit)
    (hdigits : (digits 1 (some 4)).run stop (c :: cs) = (.ok n, rest)) (hn : n ≤ 2147483647) :
    looseYear.run stop (c :: cs) = (.ok (n : Int), rest) := by
  rw [looseYear, run_bind_ok (run_blanks_of_not (isBlank_of_isDigit hc)), run_bind_ok run_peek?, List.head?_cons]
  dsimp only
  -- a digit is no sign
  split
  · next heq => exact absurd (Option.some.inj heq) (ne_of_isDigit hc (by decide))
  · next heq => exact absurd (Option.some.inj heq) (ne_of_isDigit hc (by decide))
  · rw [run_bind_ok hdigits, run_bind_ok (run_pure _), if_pos (by omega)]
    rfl

end

/-- **A year is read back**, with its sign if it has one. -/
theorem run_looseYear {year : Int} (hlow : -2147483648 ≤ year) (hhigh : year ≤ 2147483647) (hrest : EndsDigits rest) :
    looseYear.run stop (yearText year ++ rest) = (.ok year, rest) := by
  have hdigit : ∀ c ∈ padded 4 year.natAbs, c.isDigit := fun _ => isDigit_of_mem_padded
  have hpos : 1 ≤ (padded 4 year.natAbs).length := List.length_pos_iff.2 (padded_ne_nil 4 year.natAbs)
  have hdigits {most : Option Nat} (hmost : ∀ n ∈ most, (padded 4 year.natAbs).length ≤ n) :
      (digits 1 most).run stop (padded 4 year.natAbs ++ rest) = (.ok year.natAbs, rest) :=
    run_digits hdigit (digitsValue_padded 4 year.natAbs) (by omega) hpos hmost fun _ => hrest
  have hunbounded : (digits 1 none).run stop (padded 4 year.natAbs ++ rest) = (.ok year.natAbs, rest) :=
    hdigits fun _ h => nomatch h
  rw [yearText]
  split_ifs with hnegative hfour
  · rw [List.cons_append, run_looseYear_minus hunbounded (by omega), Int.ofNat_natAbs_of_nonpos hnegative.le, neg_neg]
  · have hlength : (padded 4 year.natAbs).length = 4 := length_padded (by decide) (by omega)
    have hread : (digits 1 (some 4)).run stop (padded 4 year.natAbs ++ rest) = (.ok year.natAbs, rest) :=
      hdigits (by rintro _ ⟨⟩; omega)
    obtain ⟨c, cs, hcs⟩ := List.exists_cons_of_ne_nil (padded_ne_nil 4 year.natAbs)
    have hc : c.isDigit := hdigit c (by rw [hcs]; exact List.mem_cons_self)
    rw [hcs, List.cons_append] at hread
    rw [hcs, List.cons_append, run_looseYear_digit hc hread (by omega), Int.natAbs_of_nonneg (not_lt.1 hnegative)]
  · rw [List.cons_append, run_looseYear_plus hunbounded (by omega), Int.natAbs_of_nonneg (not_lt.1 hnegative)]

/-! ### The relaxed notation -/

theorem endsDigits_fractionText {nanos : Nat} (hrest : EndsDigits rest) : EndsDigits (fractionText nanos ++ rest) := by
  rw [fractionText]
  split_ifs
  · exact hrest
  · exact endsDigits_cons (by decide)
  · exact endsDigits_cons (by decide)
  · exact endsDigits_cons (by decide)

/-- The text of fields with a year of any length. -/
def signedText (f : Fields) : List Char :=
  yearText f.year ++ ('-' :: (padded 2 f.month ++ ('-' :: (padded 2 f.day ++ ('T' :: (padded 2 f.hour ++
    (':' :: (padded 2 f.minute ++ (':' :: (padded 2 f.second ++ (fractionText f.nanos ++ ['Z'])))))))))))

theorem run_relaxed {f : Fields} (hlow : -2147483648 ≤ f.year) (hhigh : f.year ≤ 2147483647) (h : f.InBounds)
    (stop : Nat) : relaxed.run stop (signedText f) = (instant f 0).run stop [] := by
  obtain ⟨⟨hmonth, hmonth'⟩, ⟨hday, hday'⟩, hhour, hminute, hsecond, hnanos⟩ := h
  have hhyphen {rest : List Char} : EndsDigits ('-' :: rest) := endsDigits_cons (by decide)
  have hcolon {rest : List Char} : EndsDigits (':' :: rest) := endsDigits_cons (by decide)
  have hseparator {rest : List Char} : EndsDigits ('T' :: rest) := endsDigits_cons (by decide)
  have hzone : EndsDigits ['Z'] := endsDigits_cons (by decide)
  have hmore {c : Char} {rest : List Char} : expectMore.run stop (c :: rest) = (.ok (), c :: rest) := rfl
  rw [relaxed, signedText, run_bind_ok (run_looseYear hlow hhigh hhyphen), run_bind_ok (run_spacedMark (by decide)),
    run_bind_ok (run_looseNumber (by omega) hmonth hmonth' hhyphen), run_bind_ok (run_spacedMark (by decide)),
    run_bind_ok (run_looseNumber (by omega) hday hday' hseparator), run_bind_ok hmore,
    run_bind_ok (run_mark (by decide) stop _),
    run_bind_ok (run_looseNumber (by omega) (Nat.zero_le _) hhour hcolon), run_bind_ok (run_spacedMark (by decide)),
    run_bind_ok (run_looseNumber (by omega) (Nat.zero_le _) hminute hcolon), run_bind_ok (run_spacedMark (by decide)),
    run_bind_ok (run_looseNumber (by omega) (Nat.zero_le _) hsecond (endsDigits_fractionText hzone)),
    run_bind_ok (run_fraction hnanos stop hzone (by decide)), run_bind_ok (run_blanks_of_not (by decide)),
    run_bind_ok hmore, run_bind_ok run_ahead]
  have hname : isUtcName ['Z'] = false := by decide
  have hoffset : (utcOffset colonsAndBlanks).run stop ['Z'] = (.ok 0, []) := rfl
  have hblanks : blanks.run stop [] = (.ok (), []) := rfl
  have hfinish : finish.run stop [] = (.ok (), []) := rfl
  simp only [hname, Bool.false_eq_true, if_false]
  rw [run_bind_ok hoffset, run_bind_ok hblanks, run_bind_ok hfinish]

end DateReader

namespace Instant

theorem toList_rfc3339_signed (t : Instant) : (t.rfc3339 "Z").toList = DateReader.signedText t.wallTime.fields := by
  obtain ⟨d, hd⟩ : ∃ d, t.wallTime.date = d := ⟨_, rfl⟩
  rw [rfc3339, String.toList_append, String.toList_ofList, WallTime.text, WallTime.clockText, Date.text,
    DateReader.signedText, WallTime.fields, hd]
  simp only [List.append_assoc, List.cons_append]
  rfl

theorem year_fields_bounds (t : Instant) :
    -2147483648 ≤ t.wallTime.fields.year ∧ t.wallTime.fields.year ≤ 2147483647 := by
  have hyear : t.wallTime.fields.year = t.date.year := by
    rw [WallTime.year_fields, date_wallTime]
  have hbounds := t.isYear_date
  simp only [DateReader.isYear, Bool.and_eq_true, decide_eq_true_eq] at hbounds
  omega

/-- **Every instant is read back from its standard text in the relaxed notation**, whatever its year, leap seconds
included. -/
theorem readRelaxed_rfc3339 (t : Instant) : readRelaxed (t.rfc3339 "Z") = .ok t := by
  obtain ⟨hlow, hhigh⟩ := t.year_fields_bounds
  rw [readRelaxed, toList_rfc3339_signed,
    DateReader.run_relaxed hlow hhigh (WallTime.inBounds_fields t.hasLeapRule), instant_fields]

end Instant

end SqlFormula
