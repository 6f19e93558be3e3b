import Mathlib
import SqlFormula.Instant.Text
import SqlFormula.Proofs.Calendar
import SqlFormula.Proofs.Number.Numeral
import SqlFormula.Proofs.Reader

/-!
# Instants are read back from their text

In the years 1 to 9999 the text of an instant is the standard notation, which is read back whatever the fraction,
leap seconds included. Outside of these years the fraction is written in nine digits, which are too few for that of
a leap second: then ten are written, and the text is refused.

## Main statements

- `DateReader.run_digits`, `DateReader.run_fraction` — the parts of the standard notation
- `WallTime.wallTime?_fields` — a date and a time of day are found again from their fields
- `Instant.readRfc3339_rfc3339`, `Instant.ofSecondsText?_secondsText` — the two notations
-/

namespace SqlFormula

namespace DateReader

open Reader Number

/-! ### Parts of the standard notation -/

theorem length_le_byteLength (cs : List Char) : cs.length ≤ Text.byteLength cs := by
  suffices h : ∀ n, n + cs.length ≤ cs.foldl (fun n c => n + c.utf8Size) n by
    have h0 := h 0
    rwa [Nat.zero_add] at h0
  induction cs with
  | nil => exact fun n => Nat.le_refl n
  | cons c cs ih =>
    intro n
    have hsize := c.utf8Size_pos
    have hrest := ih (n + c.utf8Size)
    rw [List.length_cons, List.foldl_cons]
    omega

/-- Digits are read up to where they end, or as many as there may be at most. -/
theorem run_digits {least value stop : Nat} {most : Option Nat} {cs rest : List Char} (hdigits : ∀ c ∈ cs, c.isDigit)
    (hvalue : digitsValue cs = value) (hsmall : value < 9223372036854775808) (hleast : least ≤ cs.length)
    (hmost : ∀ n ∈ most, cs.length ≤ n) (hrest : most ≠ some cs.length → EndsDigits rest) :
    (digits least most).run stop (cs ++ rest) = (.ok value, rest) := by
  subst hvalue
  have hlong : ¬Text.byteLength (cs ++ rest) < least := by
    have hle := length_le_byteLength (cs ++ rest)
    rw [List.length_append] at hle
    omega
  have hshort : ¬cs.length < least := by omega
  have hsmall : ¬9223372036854775808 ≤ digitsValue cs := by omega
  have hskip : (skip cs.length >>= fun _ => pure (digitsValue cs) : DateReader Nat).run stop (cs ++ rest) =
      (.ok (digitsValue cs), rest) := by
    rw [run_bind_ok (run_skip _), List.drop_left]
    rfl
  rw [digits, run_bind_ok run_ahead]
  cases most with
  | none =>
    simp only [(takeWhile_isDigit hdigits (hrest nofun)).1, if_neg hlong, if_neg hshort, if_neg hsmall]
    exact hskip
  | some n =>
    have hle : cs.length ≤ n := hmost n rfl
    -- only what may still be read has to end the digits
    have hends : EndsDigits (rest.take (n - cs.length)) := by
      intro c hc
      rw [List.head?_take] at hc
      split at hc
      · cases hc
      · exact hrest (fun heq => by cases heq; omega) c hc
    have htake : ((cs ++ rest).take n).takeWhile Char.isDigit = cs := by
      rw [List.take_append, List.take_of_length_le hle]
      exact (takeWhile_isDigit hdigits hends).1
    simp only [htake, if_neg hlong, if_neg hshort, if_neg hsmall]
    exact hskip

theorem reads_digits {width n : Nat} (hpos : 0 < width) (hwidth : width ≤ 18) (hn : n < 10 ^ width) :
    (digits width (some width)).Reads (padded width n) n := by
  intro stop rest
  have hlength := length_padded hpos hn
  have hpow : 10 ^ width ≤ 10 ^ 18 := Nat.pow_le_pow_right (by decide) hwidth
  exact run_digits (fun _ => isDigit_of_mem_padded) (digitsValue_padded width n) (by omega) hlength.ge
    (by rintro _ ⟨⟩; exact hlength.le) fun hne => absurd (congrArg some hlength.symm) hne

theorem reads_between {least most n : Nat} {number : DateReader Nat} {cs : List Char} (hnumber : number.Reads cs n)
    (hleast : least ≤ n) (hmost : n ≤ most) : (between least most number).Reads cs n :=
  Reads.map hnumber (if_pos ⟨hleast, hmost⟩)

theorem run_mark {c : Char} {allowed : List Char} (h : c ∈ allowed) (stop : Nat) (rest : List Char) :
    (mark allowed).run stop (c :: rest) = (.ok (), rest) := by
  have hcontains : allowed.contains c = true := List.contains_iff_mem.2 h
  rw [mark, run_bind_ok run_peek?]
  simp only [List.head?_cons, hcontains, if_true]
  rfl

/-- The digits of a fraction, which are the first of nine. -/
theorem run_nanoseconds {width n : Nat} (hpos : 0 < width) (hwidth : width ≤ 9) (hn : n < 10 ^ width) (stop : Nat)
    {rest : List Char} (hrest : EndsDigits rest) :
    nanoseconds.run stop (padded width n ++ rest) = (.ok (n * 10 ^ (9 - width)), rest) := by
  have hlength := length_padded hpos hn
  have hdigit : ∀ c ∈ padded width n, c.isDigit := fun _ => isDigit_of_mem_padded
  have hempty : (padded width n).isEmpty = false := by simpa using padded_ne_nil width n
  obtain ⟨htake, hdrop⟩ := takeWhile_isDigit hdigit hrest
  rw [nanoseconds, run_bind_ok (run_takeWhile _), htake, hdrop, hempty]
  simp only [Bool.false_eq_true, if_false, List.take_of_length_le (show (padded width n).length ≤ 9 by omega),
    digitsValue_padded, hlength]
  rfl

/-- A fraction is read back, whether it is written in three, six or nine digits or not at all. -/
theorem run_fraction {nanos : Nat} (hnanos : nanos < nanosPerSecond) (stop : Nat) {rest : List Char}
    (hrest : EndsDigits rest) (hpoint : rest.head? ≠ some '.') :
    fraction.run stop (fractionText nanos ++ rest) = (.ok nanos, rest) := by
  rw [nanosPerSecond] at hnanos
  have hpointed {width n : Nat} (hpos : 0 < width) (hwidth : width ≤ 9) (hn : n < 10 ^ width) :
      fraction.run stop ('.' :: (padded width n ++ rest)) = (.ok (n * 10 ^ (9 - width)), rest) := by
    rw [fraction, run_bind_ok run_peek?, if_pos (by rfl), run_bind_ok (run_skip _)]
    exact run_nanoseconds hpos hwidth hn stop hrest
  rw [fractionText]
  split
  · next hzero =>
    subst hzero
    rw [List.nil_append, fraction, run_bind_ok run_peek?, if_neg hpoint]
    rfl
  · split
    · next hmillis =>
      rw [List.cons_append, hpointed (by decide) (by decide) (by omega)]
      congr 2
      omega
    · split
      · next hmicros =>
        rw [List.cons_append, hpointed (by decide) (by decide) (by omega)]
        congr 2
        omega
      · rw [List.cons_append, hpointed (by decide) (by decide) hnanos, Nat.sub_self, Nat.pow_zero, Nat.mul_one]

/-! ### The standard notation -/

/-- The text of fields in the standard notation, for a year of four digits. -/
def standardText (year : Nat) (f : Fields) : List Char :=
  padded 4 year ++ ('-' :: (padded 2 f.month ++ ('-' :: (padded 2 f.day ++ ('T' :: (padded 2 f.hour ++
    (':' :: (padded 2 f.minute ++ (':' :: (padded 2 f.second ++ (fractionText f.nanos ++ ['Z'])))))))))))

/-- The bounds that the reader of the standard notation checks. -/
structure Fields.InBounds (f : Fields) : Prop where
  month : 1 ≤ f.month ∧ f.month ≤ 12
  day : 1 ≤ f.day ∧ f.day ≤ 31
  hour : f.hour ≤ 23
  minute : f.minute ≤ 59
  second : f.second ≤ 60
  nanos : f.nanos < nanosPerSecond

/-- The front of a text in the standard notation, with a character between the date and the time of day. -/
def standardFront (year : Nat) (between : Char) (f : Fields) (rest : List Char) : List Char :=
  padded 4 year ++ ('-' :: (padded 2 f.month ++ ('-' :: (padded 2 f.day ++ (between :: (padded 2 f.hour ++
    (':' :: (padded 2 f.minute ++ (':' :: (padded 2 f.second ++ (fractionText f.nanos ++ rest)))))))))))

/-- Behind the front there has to be an offset from UTC. -/
theorem run_rfc3339_front {year : Nat} {between : Char} {f : Fields} {rest : List Char} (hyear : f.year = year)
    (hfour : year < 10 ^ 4) (hbetween : between ∈ ['T', 't', ' ']) (h : f.InBounds) (hrest : EndsDigits rest)
    (hpoint : rest.head? ≠ some '.') (stop : Nat) :
    rfc3339.run stop (standardFront year between f rest) =
      (utcOffset (mark [':']) >>= fun offset => finish >>= fun _ => instant f offset).run stop rest := by
  obtain ⟨⟨hmonth, hmonth'⟩, ⟨hday, hday'⟩, hhour, hminute, hsecond, hnanos⟩ := h
  have htwo {n : Nat} (hn : n < 10 ^ 2) : (digits 2 (some 2)).Reads (padded 2 n) n :=
    reads_digits (by decide) (by decide) hn
  rw [rfc3339, standardFront,
    run_bind_ok (reads_digits (by decide) (by decide) hfour stop _), run_bind_ok (run_mark (by decide) stop _),
    run_bind_ok (reads_between (htwo (by omega)) hmonth hmonth' stop _), run_bind_ok (run_mark (by decide) stop _),
    run_bind_ok (reads_between (htwo (by omega)) hday hday' stop _), run_bind_ok (run_mark hbetween stop _),
    run_bind_ok (reads_between (htwo (by omega)) (Nat.zero_le _) hhour stop _),
    run_bind_ok (run_mark (by decide) stop _),
    run_bind_ok (reads_between (htwo (by omega)) (Nat.zero_le _) hminute stop _),
    run_bind_ok (run_mark (by decide) stop _),
    run_bind_ok (reads_between (htwo (by omega)) (Nat.zero_le _) hsecond stop _),
    run_bind_ok (run_fraction hnanos stop hrest hpoint), ← hyear]

theorem run_rfc3339 {year : Nat} {f : Fields} (hyear : f.year = year) (hfour : year < 10 ^ 4) (h : f.InBounds)
    (stop : Nat) : rfc3339.run stop (standardText year f) = (instant f 0).run stop [] := by
  have hoffset : (utcOffset (mark [':'])).run stop ['Z'] = (.ok 0, []) := rfl
  have hfinish : finish.run stop [] = (.ok (), []) := rfl
  have hzone : EndsDigits ['Z'] := endsDigits_cons rfl
  show rfc3339.run stop (standardFront year 'T' f ['Z']) = _
  rw [run_rfc3339_front hyear hfour (by decide) h hzone (by decide), run_bind_ok hoffset, run_bind_ok hfinish]

end DateReader

namespace WallTime

/-- The fields that a clock shows. -/
def fields (t : WallTime) : DateReader.Fields where
  year := t.date.year
  month := t.date.month
  day := t.date.day
  hour := t.hour
  minute := t.minute
  second := t.second
  nanos := t.fraction

theorem year_fields (t : WallTime) : t.fields.year = t.date.year := by
  -- under a name of its own the date stays as it is: computing it takes long and shows nothing
  obtain ⟨d, hd⟩ : ∃ d, t.date = d := ⟨_, rfl⟩
  rw [fields, hd]

/-- A fraction of one second or more stands on the last second of a minute only. -/
def HasLeapRule (t : WallTime) : Prop :=
  t.nanos < nanosPerSecond ∨ (t.nanos < 2 * nanosPerSecond ∧ t.seconds % 60 = 59)

theorem inBounds_fields {t : WallTime} (h : t.HasLeapRule) : t.fields.InBounds := by
  have hexists : t.date.Exists := Date.exists_ofDays t.days
  obtain ⟨d, hd⟩ : ∃ d, t.date = d := ⟨_, rfl⟩
  rw [hd] at hexists
  obtain ⟨hmonth, hmonth', hday, hday'⟩ := hexists
  have hlength := daysInMonth_le d.year d.month
  have hsecondOfDay : t.secondOfDay < 86400 := by
    simp only [secondOfDay, secondsPerDay]
    omega
  rw [fields, hd]
  refine ⟨⟨hmonth, hmonth'⟩, ⟨hday, Nat.le_trans hday' hlength⟩, ?_, ?_, ?_, Nat.mod_lt _ (by decide)⟩
  · simp only [hour]
    omega
  · simp only [minute]
    omega
  · simp only [HasLeapRule, nanosPerSecond] at h
    simp only [second, nanosPerSecond]
    omega

/-- The second 60 is shown during a leap second, and only then. -/
theorem second_eq_sixty_iff {t : WallTime} (h : t.HasLeapRule) : t.second = 60 ↔ nanosPerSecond ≤ t.nanos := by
  simp only [HasLeapRule, nanosPerSecond] at h
  simp only [second, secondOfDay, secondsPerDay, nanosPerSecond]
  omega

theorem wallTime?_fields {t : WallTime} (h : t.HasLeapRule) (hyear : DateReader.isYear t.date.year = true) :
    t.fields.wallTime? = some t := by
  have hexists : t.date.Exists := Date.exists_ofDays t.days
  have hdays : t.date.toDays = t.days := Date.toDays_ofDays t.days
  obtain ⟨d, hd⟩ : ∃ d, t.date = d := ⟨_, rfl⟩
  rw [hd] at hexists hdays hyear
  have hleap := second_eq_sixty_iff h
  -- the second 60 counts as the second before it, and the fraction as a second more
  have hseconds : d.toDays * secondsPerDay + t.hour * 3600 + t.minute * 60 +
      ((if t.second = 60 then 59 else t.second : Nat) : Int) = t.seconds := by
    rw [hdays]
    simp only [HasLeapRule, nanosPerSecond] at h
    by_cases hsixty : t.second = 60
    · rw [if_pos hsixty]
      simp only [days, hour, minute, second, secondOfDay, secondsPerDay, nanosPerSecond] at hsixty ⊢
      omega
    · rw [if_neg hsixty]
      simp only [days, hour, minute, second, secondOfDay, secondsPerDay, nanosPerSecond] at hleap hsixty ⊢
      omega
  have hnanos : t.fraction + (if t.second = 60 then nanosPerSecond else 0) = t.nanos := by
    simp only [HasLeapRule, nanosPerSecond] at h hleap
    simp only [fraction, nanosPerSecond]
    split <;> omega
  have hparts {seconds : Int} {nanos : Nat} (hs : seconds = t.seconds) (hn : nanos = t.nanos) :
      some (WallTime.mk seconds nanos) = some t := by
    rw [hs, hn]
  rw [DateReader.Fields.wallTime?, fields, hd]
  exact Eq.trans (if_pos ⟨hyear, hexists⟩) (hparts hseconds hnanos)

end WallTime

namespace Instant

open Number

/-! ### Years of four digits -/

theorem hasLeapRule (t : Instant) : t.wallTime.HasLeapRule :=
  t.valid.2

theorem of?_eq_some (t : Instant) : of? t.seconds t.nanos = some t :=
  dif_pos t.valid

theorem isYear_date (t : Instant) : DateReader.isYear t.date.year = true := by
  obtain ⟨hfirst, hlast⟩ := t.valid.1
  simp only [firstSecond, lastSecond] at hfirst hlast
  have hdays : -96465292 ≤ t.days ∧ t.days ≤ 95026236 := by
    simp only [days, secondsPerDay]
    omega
  have hbounds := @Date.year_ofDays_bounds t.days (-262143) 262142
    (by simp only [Date.dayZero, Date.daysBeforeYear]; omega) (by simp only [Date.dayZero, Date.daysBeforeYear]; omega)
  simp only [DateReader.isYear, Bool.and_eq_true, decide_eq_true_eq]
  exact hbounds

theorem date_wallTime (t : Instant) : t.wallTime.date = t.date :=
  rfl

theorem toList_rfc3339 {t : Instant} (hyear : 0 ≤ t.date.year ∧ t.date.year ≤ 9999) :
    (t.rfc3339 "Z").toList = DateReader.standardText t.date.year.natAbs t.wallTime.fields := by
  have hyearText : yearText t.date.year = padded 4 t.date.year.natAbs := by
    rw [yearText, if_neg (by omega), if_pos hyear.2]
  obtain ⟨d, hd⟩ : ∃ d, t.date = d := ⟨_, rfl⟩
  rw [hd] at hyearText
  rw [rfc3339, String.toList_append, String.toList_ofList, WallTime.text, WallTime.clockText, Date.text,
    DateReader.standardText, WallTime.fields, date_wallTime, hd, hyearText]
  simp only [List.append_assoc, List.cons_append]
  rfl

theorem instant_fields (t : Instant) (stop : Nat) :
    (DateReader.instant t.wallTime.fields 0).run stop [] = (.ok t, []) := by
  have hoffset : ¬secondsPerDay ≤ ((0 : Int).natAbs : Int) := by decide
  have hseconds : t.wallTime.seconds - 0 = t.seconds := Int.sub_zero _
  have hnanos : t.wallTime.nanos = t.nanos := rfl
  rw [DateReader.instant, WallTime.wallTime?_fields t.hasLeapRule t.isYear_date]
  simp only [if_neg hoffset, hseconds, hnanos, of?_eq_some]
  rfl

/-- **With a year of four digits, an instant is read back from its standard text.** -/
theorem readRfc3339_rfc3339 {t : Instant} (hyear : 0 ≤ t.date.year ∧ t.date.year ≤ 9999) :
    readRfc3339 (t.rfc3339 "Z") = .ok t := by
  have hfields : t.wallTime.fields.year = t.date.year.natAbs := by
    rw [WallTime.year_fields, date_wallTime]
    omega
  rw [readRfc3339, toList_rfc3339 hyear,
    DateReader.run_rfc3339 hfields (by omega) (WallTime.inBounds_fields t.hasLeapRule), instant_fields]

/-! ### Seconds since the beginning of 1970 -/

theorem fits_seconds (t : Instant) : Fits t.seconds := by
  obtain ⟨hfirst, hlast⟩ := t.valid.1
  simp only [firstSecond, lastSecond] at hfirst hlast
  constructor <;> omega

theorem toInt_ofInt_seconds (t : Instant) : (Int64.ofInt t.seconds).toInt = t.seconds := by
  obtain ⟨hlow, hhigh⟩ := t.fits_seconds
  exact Int64.toInt_ofInt_of_le (by omega) (by omega)

/-- Digits are told apart from the point after them. -/
theorem seconds_ne_point (t : Instant) : ∀ c ∈ (toString t.seconds).toList, (c != '.') = true := by
  intro c hc
  rw [toList_toString] at hc
  refine bne_iff_ne.2 ?_
  obtain h | h := List.mem_append.1 hc
  · split at h
    · obtain rfl := List.mem_singleton.1 h
      decide
    · cases h
  · exact ne_of_isDigit (isDigit_of_mem_toDigits h) rfl

theorem byteLength_of_digits {cs : List Char} (h : ∀ c ∈ cs, c.isDigit) : Text.byteLength cs = cs.length := by
  suffices hfold : ∀ n, cs.foldl (fun n c => n + c.utf8Size) n = n + cs.length by
    have h0 := hfold 0
    rwa [Nat.zero_add] at h0
  induction cs with
  | nil => exact fun n => rfl
  | cons c cs ih =>
    intro n
    rw [List.forall_mem_cons] at h
    have hsize : c.utf8Size = 1 := by
      have hc := h.1
      simp only [Char.isDigit, Bool.and_eq_true, decide_eq_true_eq] at hc
      exact Char.utf8Size_eq_one_iff.2 (UInt32.le_trans hc.2 (by decide))
    rw [List.foldl_cons, ih h.2, hsize, List.length_cons]
    omega

/-- What is read after the seconds: the fraction, unless it has more than nine digits. -/
theorem readFraction?_padded (nanos : Nat) :
    readFraction? ('.' :: padded 9 nanos) = if nanos < nanosPerSecond then some nanos else none := by
  have hdigit : ∀ c ∈ padded 9 nanos, c.isDigit := fun _ => isDigit_of_mem_padded
  rw [readFraction?, byteLength_of_digits hdigit, nanosPerSecond]
  by_cases hnanos : nanos < 1000000000
  · rw [if_pos hnanos, if_pos (length_padded (by decide) hnanos),
      readUnsigned?_of_digits (padded_ne_nil 9 nanos) hdigit, digitsValue_padded]
  · have hlong := @lt_length_padded 9 nanos (by decide) (by omega)
    rw [if_neg hnanos, if_neg (by omega)]

/-- **An instant is read back from its seconds** unless it is a leap second: the fraction of one has ten digits. -/
theorem ofSecondsText?_secondsText {t : Instant} {cs : List Char} (hcs : t.secondsText = '@' :: cs) :
    ofSecondsText? cs = if t.nanos < nanosPerSecond then some t else none := by
  have hread : readInt64? (toString t.seconds).toList = some (Int64.ofInt t.seconds) := by
    rw [readInt64?, readInteger?_toString]
    exact int64?_eq_some t.fits_seconds
  have hseconds := t.toInt_ofInt_seconds
  have htake (tail : List Char) (htail : ∀ c ∈ tail.head?, c = '.') :
      ((toString t.seconds).toList ++ tail).takeWhile (· != '.') = (toString t.seconds).toList ∧
        ((toString t.seconds).toList ++ tail).dropWhile (· != '.') = tail := by
    rw [List.takeWhile_append_of_pos t.seconds_ne_point, List.dropWhile_append_of_pos t.seconds_ne_point]
    cases tail with
    | nil => exact ⟨List.append_nil _, rfl⟩
    | cons c tail =>
      obtain rfl := htail c rfl
      exact ⟨List.append_nil _, rfl⟩
  rw [secondsText] at hcs
  split at hcs
  · next hzero =>
    obtain rfl := (List.cons.inj hcs).2
    obtain ⟨htaken, hdropped⟩ := htake [] (by simp)
    rw [List.append_nil] at htaken hdropped
    rw [ofSecondsText?, htaken, hdropped, hread, hzero, if_pos (by decide)]
    have hof := t.of?_eq_some
    rw [hzero] at hof
    simp only [Option.bind_eq_bind, Option.bind_some, readFraction?, hseconds]
    exact hof
  · -- the fraction has nine digits, or ten during a leap second
    rw [List.cons_append] at hcs
    obtain rfl := (List.cons.inj hcs).2
    obtain ⟨htaken, hdropped⟩ := htake ('.' :: padded 9 t.nanos) (by simp)
    rw [ofSecondsText?, htaken, hdropped, hread, readFraction?_padded]
    simp only [Option.bind_eq_bind, Option.bind_some, hseconds]
    split
    · exact t.of?_eq_some
    · rfl

/-- The standard notation begins with a digit. -/
theorem text_of_commonYear {t : Instant} (h : t.hasCommonYear = true) :
    ∃ c cs, t.text.toList = c :: cs ∧ c ≠ '@' ∧ t.text = t.rfc3339 "Z" := by
  have htext : t.text = t.rfc3339 "Z" := by rw [text, if_pos h]
  simp only [hasCommonYear, Bool.and_eq_true, decide_eq_true_eq] at h
  obtain ⟨c, cs, hyear⟩ := List.exists_cons_of_ne_nil (padded_ne_nil 4 t.date.year.natAbs)
  have hdigit : c.isDigit := @isDigit_of_mem_padded 4 t.date.year.natAbs c (by rw [hyear]; exact List.mem_cons_self)
  have hlist := toList_rfc3339 (t := t) ⟨by omega, h.2⟩
  rw [← htext, DateReader.standardText, hyear, List.cons_append] at hlist
  exact ⟨c, _, hlist, ne_of_isDigit hdigit rfl, htext⟩

/-- The text of an instant is read back, except outside of the common years during a leap second. -/
theorem ofText?_text_eq (t : Instant) :
    ofText? t.text = if t.hasCommonYear = true ∨ t.nanos < nanosPerSecond then some t else none := by
  by_cases hcommon : t.hasCommonYear = true
  · obtain ⟨c, cs, hlist, hne, htext⟩ := text_of_commonYear hcommon
    rw [if_pos (.inl hcommon), ofText?, hlist]
    simp only [hasCommonYear, Bool.and_eq_true, decide_eq_true_eq] at hcommon
    split
    · next heq => exact absurd (List.cons.inj heq).1 hne
    · rw [htext, readRfc3339_rfc3339 ⟨by omega, hcommon.2⟩]
      rfl
  · obtain ⟨cs, hcs⟩ : ∃ cs, t.secondsText = '@' :: cs := by
      rw [secondsText]
      split
      · exact ⟨_, rfl⟩
      · exact ⟨_, rfl⟩
    rw [ofText?, text, if_neg hcommon, String.toList_ofList, hcs]
    simp only [ofSecondsText?_secondsText hcs, hcommon, Bool.false_eq_true, false_or]

end Instant

end SqlFormula
