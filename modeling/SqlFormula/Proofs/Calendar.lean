import Mathlib
import SqlFormula.Calendar

/-!
# Dates and day numbers

Every day number is the number of the date that it stands for, and the calendar has that date.

## Main definitions

- `daysInYear` — the length of a year

## Main statements

- `Date.dayOfYear_ofDayOfYear` — a day of the year, taken apart into month and day
- `Date.toDays_ofDays`, `Date.exists_ofDays` — day numbers stand for dates of the calendar
- `Date.year_ofDays_bounds` — the years of the days between two years
-/

namespace SqlFormula

/-- The number of days of a year. -/
def daysInYear (year : Int) : Nat :=
  if isLeapYear year then 366 else 365

theorem sum_monthLengths (year : Int) : (monthLengths year).sum = daysInYear year := by
  simp only [monthLengths, daysInYear]
  cases isLeapYear year <;> rfl

theorem length_monthLengths (year : Int) : (monthLengths year).length = 12 :=
  rfl

theorem daysInMonth_le (year : Int) (month : Nat) : daysInMonth year month ≤ 31 := by
  have hall : ∀ length ∈ monthLengths year, length ≤ 31 := by
    rw [monthLengths]
    cases isLeapYear year <;> decide
  rw [daysInMonth, List.getD_eq_getElem?_getD]
  cases hget : (monthLengths year)[month - 1]? with
  | none => exact Nat.zero_le 31
  | some length => exact hall length (List.mem_of_getElem? hget)

/-- A year is a leap year every fourth year, but of the hundreds only every fourth is. -/
theorem isLeapYear_iff (year : Int) : isLeapYear year = true ↔ year % 4 = 0 ∧ (year % 100 ≠ 0 ∨ year % 400 = 0) := by
  simp [isLeapYear]

namespace Date

/-! ### Days of a year -/

theorem foldl_add (d : Nat) (lengths : List Nat) : lengths.foldl (· + ·) d = d + lengths.sum := by
  induction lengths generalizing d with
  | nil => rfl
  | cons length lengths ih =>
    rw [List.foldl_cons, ih, List.sum_cons]
    omega

/-- A day of the year lies in one of the months, after the days of the months before it. -/
theorem splitMonths_spec {lengths : List Nat} {day : Nat} (hpos : 1 ≤ day) (hle : day ≤ lengths.sum) (month : Nat) :
    ∃ i d, splitMonths month day lengths = (month + i, d) ∧ i < lengths.length ∧ 1 ≤ d ∧ d ≤ lengths.getD i 0 ∧
      d + (lengths.take i).sum = day := by
  induction lengths generalizing day month with
  | nil =>
    rw [List.sum_nil] at hle
    omega
  | cons length lengths ih =>
    rw [List.sum_cons] at hle
    -- the day lies in the first month, or is counted on from the end of it
    by_cases hday : day ≤ length
    · refine ⟨0, day, ?_, Nat.zero_lt_succ _, hpos, hday, rfl⟩
      rw [splitMonths, if_pos hday]
      rfl
    · obtain ⟨i, d, hsplit, hi, hd, hlength, hsum⟩ := @ih (day - length) (by omega) (by omega) (month + 1)
      refine ⟨i + 1, d, ?_, Nat.succ_lt_succ hi, hd, hlength, ?_⟩
      · rw [splitMonths, if_neg hday, hsplit]
        congr 1
        omega
      · rw [List.take_succ_cons, List.sum_cons]
        omega

variable {year : Int} {day : Nat}

theorem exists_ofDayOfYear (hpos : 1 ≤ day) (hle : day ≤ daysInYear year) : (ofDayOfYear year day).Exists := by
  rw [← sum_monthLengths] at hle
  obtain ⟨i, d, hsplit, hi, hd, hlength, -⟩ := splitMonths_spec hpos hle 1
  rw [length_monthLengths] at hi
  simp only [ofDayOfYear, hsplit, Exists, daysInMonth, Nat.add_sub_cancel_left]
  exact ⟨by omega, by omega, hd, hlength⟩

theorem dayOfYear_ofDayOfYear (hpos : 1 ≤ day) (hle : day ≤ daysInYear year) :
    (ofDayOfYear year day).dayOfYear = day := by
  rw [← sum_monthLengths] at hle
  obtain ⟨i, d, hsplit, -, -, -, hsum⟩ := splitMonths_spec hpos hle 1
  simp only [ofDayOfYear, hsplit, dayOfYear, Nat.add_sub_cancel_left]
  rw [foldl_add]
  exact hsum

theorem year_ofDayOfYear (year : Int) (day : Nat) : (ofDayOfYear year day).year = year :=
  rfl

/-! ### Day numbers -/

/-- The days before a year, given its place in the spans of 400, 100 and 4 years. -/
theorem daysBeforeYear_eq {era : Int} {century span year : Nat} (hcentury : century ≤ 3) (hspan : span ≤ 24)
    (hyear : year ≤ 3) :
    daysBeforeYear (era * 400 + century * 100 + span * 4 + year + 1) =
      era * 146097 + century * 36524 + span * 1461 + year * 365 := by
  have h4 : (era * 400 + century * 100 + span * 4 + year + 1 - 1) / 4 = era * 100 + century * 25 + span := by omega
  have h100 : (era * 400 + century * 100 + span * 4 + year + 1 - 1) / 100 = era * 4 + century := by omega
  have h400 : (era * 400 + century * 100 + span * 4 + year + 1 - 1) / 400 = era := by omega
  rw [daysBeforeYear, h4, h100, h400]
  omega

/-- The last year of a span of four years is a leap year, unless it ends one of the first three centuries. -/
theorem isLeapYear_of_last {era : Int} {century span : Nat} (hspan : span ≤ 24) (hlast : span < 24 ∨ century = 3) :
    isLeapYear (era * 400 + century * 100 + span * 4 + (3 : Nat) + 1) = true := by
  rw [isLeapYear_iff]
  refine ⟨by omega, ?_⟩
  obtain h | h := hlast
  · left
    omega
  · by_cases hs : span < 24
    · left
      omega
    · right
      omega

/-- A day number is that of a day of some year. -/
theorem ofDays_eq (n : Int) :
    ∃ (year : Int) (day : Nat), ofDays n = ofDayOfYear year day ∧ 1 ≤ day ∧ day ≤ daysInYear year ∧
      dayZero + daysBeforeYear year + day = n := by
  -- the steps of the division, each with a name: spans of 400, 100 and 4 years, and single years
  obtain ⟨since, hsince⟩ : ∃ since, n - dayZero - 1 = since := ⟨_, rfl⟩
  obtain ⟨era, hera⟩ : ∃ era, since / 146097 = era := ⟨_, rfl⟩
  obtain ⟨inEra, hinEra⟩ : ∃ inEra, (since % 146097).toNat = inEra := ⟨_, rfl⟩
  obtain ⟨century, hcentury⟩ : ∃ century, min (inEra / 36524) 3 = century := ⟨_, rfl⟩
  obtain ⟨inCentury, hinCentury⟩ : ∃ inCentury, inEra - century * 36524 = inCentury := ⟨_, rfl⟩
  obtain ⟨span, hspan⟩ : ∃ span, inCentury / 1461 = span := ⟨_, rfl⟩
  obtain ⟨inSpan, hinSpan⟩ : ∃ inSpan, inCentury % 1461 = inSpan := ⟨_, rfl⟩
  obtain ⟨year, hyear⟩ : ∃ year, min (inSpan / 365) 3 = year := ⟨_, rfl⟩
  -- only the last century of four, and the last year of four, has a day more
  have heraEq : since = era * 146097 + inEra := by omega
  have hinEraLt : inEra < 146097 := by omega
  have hcenturyLe : century ≤ 3 := by omega
  have hcenturyEq : inEra = century * 36524 + inCentury := by omega
  have hinCenturyLt : inCentury < 36524 ∨ century = 3 ∧ inCentury ≤ 36524 := by omega
  have hspanEq : inCentury = span * 1461 + inSpan := by omega
  have hinSpanLt : inSpan < 1461 := by omega
  have hspanLe : span ≤ 24 := by omega
  have hyearLe : year ≤ 3 := by omega
  have hinYear : inSpan - year * 365 < 365 ∨ year = 3 ∧ inSpan = 1460 := by omega
  have hyearEq : year * 365 ≤ inSpan := by omega
  refine ⟨era * 400 + century * 100 + span * 4 + year + 1, inSpan - year * 365 + 1, ?_, Nat.succ_pos _, ?_, ?_⟩
  · simp only [ofDays, hsince, hera, hinEra, hcentury, hinCentury, hspan, hinSpan, hyear]
  · obtain hlt | ⟨rfl, hlast⟩ := hinYear
    · rw [daysInYear]
      split <;> omega
    · -- the 366th day comes only in leap years
      rw [daysInYear, isLeapYear_of_last hspanLe (by omega), if_pos rfl]
      omega
  · rw [daysBeforeYear_eq hcenturyLe hspanLe hyearLe]
    omega

/-- **A day number is the number of its date.** -/
theorem toDays_ofDays (n : Int) : (ofDays n).toDays = n := by
  obtain ⟨year, day, hdate, hpos, hle, hdays⟩ := ofDays_eq n
  rw [hdate, toDays, dayOfYear_ofDayOfYear hpos hle, year_ofDayOfYear]
  exact hdays

theorem exists_ofDays (n : Int) : (ofDays n).Exists := by
  obtain ⟨year, day, hdate, hpos, hle, -⟩ := ofDays_eq n
  rw [hdate]
  exact exists_ofDayOfYear hpos hle

theorem year_ofDays_bounds {n first last : Int} (hfirst : dayZero + daysBeforeYear first < n)
    (hlast : n ≤ dayZero + daysBeforeYear (last + 1)) : first ≤ (ofDays n).year ∧ (ofDays n).year ≤ last := by
  obtain ⟨year, day, hdate, hpos, hle, hdays⟩ := ofDays_eq n
  rw [hdate, year_ofDayOfYear]
  -- years follow one another without a gap, so their first days tell them apart
  have hlength : daysBeforeYear year + day ≤ daysBeforeYear (year + 1) := by
    have hleap := isLeapYear_iff year
    rw [daysInYear] at hle
    simp only [daysBeforeYear]
    split at hle
    · next h =>
      rw [hleap] at h
      omega
    · omega
  have hmono {a b : Int} (h : a ≤ b) : daysBeforeYear a ≤ daysBeforeYear b := by
    simp only [daysBeforeYear]
    omega
  constructor
  · by_cases h : first ≤ year
    · exact h
    · have := @hmono (year + 1) first (by omega)
      omega
  · by_cases h : year ≤ last
    · exact h
    · have := @hmono (last + 1) year (by omega)
      omega

end Date

end SqlFormula
