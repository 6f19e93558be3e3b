import SqlFormula.Eval
import SqlFormula.Proofs.Instant.ReadBack
import SqlFormula.Zone.Known

/-!
# Modifiers of dates and times

A time to which modifiers are applied lies in the years that instants have, and so do the times to which they lead. Where
one would lead beyond these years, it is an invalid date. Only the local time of a zone is not looked at before it is
used: at the ends of the calendar it stops the evaluation.

## Main definitions

- `IsLocalTime` — the modifier that leads to the local time

## Main statements

- `WallTime.inRange_midnight` — the beginnings of days, months and years
- `applyModifier_localTime`, `applyModifier_of_not_isLocalTime` — what one modifier does
- `resolveTime_modifiers` — what modifiers one after the other do
-/

namespace SqlFormula

namespace WallTime

variable {t u : WallTime}

/-! ### Times of the calendar -/

theorem inRange_wallTime (t : Instant) : t.wallTime.InRange :=
  t.valid.1

theorem guard_eq_some (h : t.guard = some u) : u = t ∧ u.InRange := by
  rw [guard] at h
  split_ifs at h with hrange
  obtain rfl := Option.some.inj h
  exact ⟨rfl, hrange⟩

theorem year_bounds (ht : t.InRange) : -262143 ≤ t.date.year ∧ t.date.year ≤ 262142 := by
  have hyear := Instant.isYear_date ⟨t.seconds, 0, ht, .inl (by decide)⟩
  simp only [DateReader.isYear, Bool.and_eq_true, decide_eq_true_eq] at hyear
  exact hyear

theorem dayOfYear_eq (d : Date) : d.dayOfYear = d.day + ((monthLengths d.year).take (d.month - 1)).sum :=
  Date.foldl_add _ _

/-- The midnight at the beginning of an earlier day of the same year, or of the same day. -/
theorem inRange_midnight (ht : t.InRange) {d : Date} (hyear : d.year = t.date.year) (hpos : 1 ≤ d.dayOfYear)
    (hle : d.dayOfYear ≤ t.date.dayOfYear) : (midnight d).InRange := by
  obtain ⟨hfirst, -⟩ := year_bounds ht
  have hdays : t.date.toDays = t.days := Date.toDays_ofDays t.days
  have hbefore : d.toDays ≤ t.days := by
    rw [← hdays, Date.toDays, Date.toDays, hyear]
    omega
  have hafter : -96465292 ≤ d.toDays := by
    rw [Date.toDays, hyear]
    simp only [Date.dayZero, Date.daysBeforeYear]
    omega
  obtain ⟨-, hlast⟩ := ht
  simp only [days, secondsPerDay, Instant.lastSecond] at hbefore hlast
  constructor
  · simp only [midnight, secondsPerDay, Instant.firstSecond]
    omega
  · simp only [midnight, secondsPerDay, Instant.lastSecond]
    omega

theorem day_pos (t : WallTime) : 1 ≤ t.date.day := by
  obtain ⟨-, -, hday, -⟩ := Date.exists_ofDays t.days
  exact hday

theorem inRange_startOfDay (ht : t.InRange) : t.startOfDay.InRange := by
  refine inRange_midnight ht rfl ?_ le_rfl
  have hday := t.day_pos
  rw [dayOfYear_eq]
  omega

theorem inRange_startOfMonth (ht : t.InRange) : t.startOfMonth.InRange := by
  have hday := t.day_pos
  refine inRange_midnight ht rfl ?_ ?_
  · rw [dayOfYear_eq]
    exact Nat.le_add_right 1 _
  · rw [dayOfYear_eq, dayOfYear_eq]
    exact Nat.add_le_add_right hday _

theorem inRange_startOfYear (ht : t.InRange) : t.startOfYear.InRange := by
  have hday := t.day_pos
  refine inRange_midnight ht rfl le_rfl ?_
  rw [dayOfYear_eq t.date]
  show 1 ≤ _
  omega

end WallTime

open WallTime

variable {t u : WallTime}

/-- A time value stands for a time of the calendar. -/
theorem inRange_of_timeValue? {now : Instant} {v : Value} (h : timeValue? now v = some t) : t.InRange := by
  have hinstant {i? : Option Instant} (h : i?.map Instant.wallTime = some t) : t.InRange := by
    obtain ⟨i, -, rfl⟩ := Option.map_eq_some_iff.1 h
    exact inRange_wallTime i
  have hnumber {v : Value} (h : numberTime? v = some t) : t.InRange := by
    cases v with
    | integer i => exact hinstant h
    | float x => exact hinstant h
    | _ => cases h
  cases v with
  | dateTime i =>
    obtain rfl := Option.some.inj h
    exact inRange_wallTime i
  | text s =>
    rw [timeValue?, textTime?] at h
    split_ifs at h with hnow
    · obtain rfl := Option.some.inj h
      exact inRange_wallTime now
    · split at h
      · next i _ =>
        obtain rfl := Option.some.inj h
        exact inRange_wallTime i
      · obtain ⟨w, -, hw⟩ := Option.bind_eq_some_iff.1 h
        exact hnumber hw
  | _ =>
    rw [timeValue?.eq_def] at h
    exact hnumber h

/-! ### One modifier -/

theorem inRange_of_addAmount? {amount : Float} {unit : String} (h : addAmount? t amount unit = some u) :
    u.InRange := by
  rw [addAmount?.eq_def] at h
  split at h
  · obtain ⟨months, -, hmonths⟩ := Option.bind_eq_some_iff.1 h
    exact (guard_eq_some hmonths).2
  · obtain ⟨months, -, hmonths⟩ := Option.bind_eq_some_iff.1 h
    exact (guard_eq_some hmonths).2
  · obtain ⟨unitLength, -, hlength⟩ := Option.bind_eq_some_iff.1 h
    dsimp only at hlength
    split_ifs at hlength
    obtain ⟨ms, -, hms⟩ := Option.bind_eq_some_iff.1 hlength
    exact (guard_eq_some hms).2

/-- A modifier with an amount leads to a time of the calendar. -/
theorem inRange_of_applyAmount? {modifier : String} (h : applyAmount? t modifier = some u) : u.InRange := by
  rw [applyAmount?] at h
  split at h
  · obtain ⟨amount, -, hamount⟩ := Option.bind_eq_some_iff.1 h
    split_ifs at hamount
    exact inRange_of_addAmount? hamount
  · cases h

/-- The modifier that leads to the local time, in any case and with blanks around it. -/
def IsLocalTime (modifier : String) : Prop :=
  Text.asciiLower (Text.trim modifier) = "localtime"

instance (modifier : String) : Decidable (IsLocalTime modifier) :=
  inferInstanceAs (Decidable (_ = _))

variable {zone : Zone} {modifier : String}

/-- The local time is the result if it is a time of the calendar; else the evaluation stops. -/
theorem applyModifier_localTime (zone : Zone) (h : IsLocalTime modifier) (t : WallTime) :
    applyModifier zone t modifier =
      if (zone.toLocal t).InRange then .ok (zone.toLocal t) else .error .localTimeOutOfRange := by
  rw [applyModifier, show Text.asciiLower (Text.trim modifier) = "localtime" from h]
  dsimp only
  rw [WallTime.guard]
  split_ifs <;> rfl

/-- Any other modifier leads to a time of the calendar, or is an invalid date. -/
theorem applyModifier_of_not_isLocalTime (zone : Zone) (h : ¬IsLocalTime modifier) (ht : t.InRange) :
    (∃ u, applyModifier zone t modifier = .ok u ∧ u.InRange) ∨
      applyModifier zone t modifier = .error (.invalidDate modifier) := by
  unfold applyModifier
  dsimp only
  split
  · exact .inl ⟨_, rfl, inRange_startOfDay ht⟩
  · exact .inl ⟨_, rfl, inRange_startOfMonth ht⟩
  · exact .inl ⟨_, rfl, inRange_startOfYear ht⟩
  · next heq => exact absurd heq h
  · split
    · next heq =>
      obtain ⟨v, -, hv⟩ := Option.bind_eq_some_iff.1 heq
      exact .inl ⟨_, rfl, (guard_eq_some hv).2⟩
    · exact .inr rfl
  · exact .inl ⟨t, rfl, ht⟩
  · split
    · next heq => exact .inl ⟨_, rfl, inRange_of_applyAmount? heq⟩
    · exact .inr rfl

/-- Far enough from the ends of the calendar the local time is a time of the calendar. -/
theorem inRange_toLocal (hoffset : (zone.offsetAt t.seconds).natAbs ≤ 86400)
    (hfirst : Instant.firstSecond + 86400 ≤ t.seconds) (hlast : t.seconds + 86400 ≤ Instant.lastSecond) :
    (zone.toLocal t).InRange := by
  constructor
  · simp only [Zone.toLocal]
    omega
  · simp only [Zone.toLocal]
    omega

/-! ### Modifiers one after the other -/

/-- Modifiers lead from one time to another. -/
inductive LeadsTo (zone : Zone) : WallTime → List String → WallTime → Prop
  | nil (t : WallTime) : LeadsTo zone t [] t
  | cons {t u v : WallTime} {m : String} {ms : List String} :
    applyModifier zone t m = .ok u → LeadsTo zone u ms v → LeadsTo zone t (m :: ms) v

/-- A modifier that has a result leads to a time of the calendar. -/
theorem inRange_of_applyModifier (ht : t.InRange) (h : applyModifier zone t modifier = .ok u) : u.InRange := by
  by_cases hlocal : IsLocalTime modifier
  · rw [applyModifier_localTime zone hlocal] at h
    split_ifs at h with hrange
    cases h
    exact hrange
  · obtain ⟨w, hok, hw⟩ | herror := applyModifier_of_not_isLocalTime zone hlocal ht
    · rw [h] at hok
      cases hok
      exact hw
    · rw [h] at herror
      cases herror

theorem LeadsTo.inRange {ms : List String} (h : LeadsTo zone t ms u) (ht : t.InRange) : u.InRange := by
  induction h with
  | nil t => exact ht
  | cons hstep _ ih => exact ih (inRange_of_applyModifier ht hstep)

theorem LeadsTo.concat {w : WallTime} {ms : List String} (h : LeadsTo zone t ms u)
    (hstep : applyModifier zone u modifier = .ok w) : LeadsTo zone t (ms ++ [modifier]) w := by
  induction h with
  | nil t => exact .cons hstep (.nil w)
  | cons hfirst _ ih => exact .cons hfirst (ih hstep)

section

variable {f : Builtin} {ms front : List String}

theorem applyModifiers_cons (index : Nat) (m : String) (ms : List String) :
    applyModifiers f zone index t ((m :: ms).map .text) =
      applyModifier zone t m >>= fun u => applyModifiers f zone (index + 1) u (ms.map .text) := by
  have hargument : f.asTextArg index (.text m) = .ok (some m) := rfl
  rw [List.map_cons, applyModifiers, hargument]
  exact pure_bind _ _

theorem applyModifiers_of_leads (h : LeadsTo zone t ms u) (index : Nat) :
    applyModifiers f zone index t (ms.map .text) = .ok (some u) := by
  induction h generalizing index with
  | nil t => rfl
  | cons hstep _ ih =>
    rw [applyModifiers_cons, hstep]
    exact ih (index + 1)

/-- A modifier that fails gives its error to the whole, whatever comes behind it. -/
theorem applyModifiers_of_error {m : String} {e : EvalError} (h : LeadsTo zone t front u)
    (herror : applyModifier zone u m = .error e) (back : List String) (index : Nat) :
    applyModifiers f zone index t ((front ++ m :: back).map .text) = .error e := by
  induction h generalizing index with
  | nil t =>
    rw [List.nil_append, applyModifiers_cons, herror]
    rfl
  | cons hstep _ ih =>
    rw [List.cons_append, applyModifiers_cons, hstep]
    exact ih herror (index + 1)

/-- Either all modifiers have results, or one of them is the first that fails. -/
theorem leads_or_error (zone : Zone) (t : WallTime) (ms : List String) :
    (∃ u, LeadsTo zone t ms u) ∨
      ∃ front m back u e, ms = front ++ m :: back ∧ LeadsTo zone t front u ∧ applyModifier zone u m = .error e := by
  induction ms generalizing t with
  | nil => exact .inl ⟨t, .nil t⟩
  | cons m ms ih =>
    cases hstep : applyModifier zone t m with
    | error e => exact .inr ⟨[], m, ms, t, e, rfl, .nil t, hstep⟩
    | ok u =>
      obtain ⟨w, hw⟩ | ⟨front, m', back, w, e, rfl, hfront, herror⟩ := ih u
      · exact .inl ⟨w, .cons hstep hw⟩
      · exact .inr ⟨m :: front, m', back, w, e, rfl, .cons hstep hfront, herror⟩

end

/-- The arguments of a call on a time value are modifiers. -/
theorem resolveTime_cons {ctx : Context} {v : Value} (hv : timeValue? ctx.now v = some t) (f : Builtin)
    (modifiers : List Value) : resolveTime f ctx (v :: modifiers) = applyModifiers f ctx.options.zone 1 t modifiers := by
  rw [resolveTime.eq_def]
  cases v with
  | null => cases hv
  | _ =>
    dsimp only
    rw [hv]

/-- **What modifiers do**, for every function on dates and times, every zone and every time value. If they lead to a time,
it is one of the calendar, and with `localtime` behind them they lead to its local time if that is one of the calendar
too; if it is not, the evaluation stops. If they lead to no time, the first of them that fails is an invalid date, or it
is `localtime` and stops the evaluation. -/
theorem resolveTime_modifiers (f : Builtin) {ctx : Context} {v : Value} (hv : timeValue? ctx.now v = some t)
    (ms : List String) :
    (∃ u, resolveTime f ctx (v :: ms.map .text) = .ok (some u) ∧ u.InRange ∧
      ∀ m, IsLocalTime m → resolveTime f ctx (v :: (ms ++ [m]).map .text) =
        if (ctx.options.zone.toLocal u).InRange then .ok (some (ctx.options.zone.toLocal u))
        else .error .localTimeOutOfRange) ∨
    ∃ front m back u, ms = front ++ m :: back ∧ resolveTime f ctx (v :: front.map .text) = .ok (some u) ∧ u.InRange ∧
      ((¬IsLocalTime m ∧ resolveTime f ctx (v :: ms.map .text) = .error (.invalidDate m)) ∨
        (IsLocalTime m ∧ ¬(ctx.options.zone.toLocal u).InRange ∧
          resolveTime f ctx (v :: ms.map .text) = .error .localTimeOutOfRange)) := by
  have ht : t.InRange := inRange_of_timeValue? hv
  simp only [resolveTime_cons hv]
  obtain ⟨u, hu⟩ | ⟨front, m, back, u, e, rfl, hfront, herror⟩ := leads_or_error ctx.options.zone t ms
  · refine .inl ⟨u, applyModifiers_of_leads hu 1, hu.inRange ht, fun m hm => ?_⟩
    -- one more modifier is applied to the time that the others lead to
    have hstep := applyModifier_localTime ctx.options.zone hm u
    split_ifs with hrange
    · rw [if_pos hrange] at hstep
      exact applyModifiers_of_leads (hu.concat hstep) 1
    · rw [if_neg hrange] at hstep
      exact applyModifiers_of_error hu hstep [] 1
  · have hu : u.InRange := hfront.inRange ht
    refine .inr ⟨front, m, back, u, rfl, applyModifiers_of_leads hfront 1, hu, ?_⟩
    rw [applyModifiers_of_error hfront herror back 1]
    by_cases hm : IsLocalTime m
    · rw [applyModifier_localTime ctx.options.zone hm] at herror
      split_ifs at herror with hrange
      cases herror
      exact .inr ⟨hm, hrange, rfl⟩
    · -- other modifiers that fail are invalid dates
      obtain ⟨w, hok, -⟩ | hinvalid := applyModifier_of_not_isLocalTime ctx.options.zone hm hu
      · rw [herror] at hok
        cases hok
      · rw [herror] at hinvalid
        cases hinvalid
        exact .inl ⟨hm, rfl⟩

/-- The zone of Japan. -/
def inJapan : Context where
  options := { Options.default with zone := Zone.tokyo }
  now := Instant.epoch

/-- The last second of the calendar. -/
def lastInstant : Instant :=
  ⟨Instant.lastSecond, 0, by decide⟩

/-- At the beginning of 1970 it is nine in the morning in Japan. In the last hours of the calendar it would be the next
year there. -/
theorem resolveTime_modifiers_inJapan :
    (timeValue? inJapan.now (.dateTime Instant.epoch) = some Instant.epoch.wallTime ∧
      resolveTime .dateTime inJapan [.dateTime Instant.epoch, .text "localtime"] = .ok (some ⟨32400, 0⟩)) ∧
    timeValue? inJapan.now (.dateTime lastInstant) = some lastInstant.wallTime ∧
      resolveTime .dateTime inJapan [.dateTime lastInstant, .text "localtime"] = .error .localTimeOutOfRange := by
  have hlocal : IsLocalTime "localtime" := by decide
  have hfirst : timeValue? inJapan.now (.dateTime Instant.epoch) = some Instant.epoch.wallTime := rfl
  have hlast : timeValue? inJapan.now (.dateTime lastInstant) = some lastInstant.wallTime := rfl
  refine ⟨⟨hfirst, ?_⟩, hlast, ?_⟩
  · obtain ⟨u, hu, -, hm⟩ | ⟨front, m, back, u, hnil, -⟩ := resolveTime_modifiers .dateTime hfirst []
    · obtain rfl : Instant.epoch.wallTime = u := Option.some.inj (Except.ok.inj hu)
      exact (hm "localtime" hlocal).trans (if_pos (by decide))
    · simp at hnil
  · obtain ⟨u, hu, -, hm⟩ | ⟨front, m, back, u, hnil, -⟩ := resolveTime_modifiers .dateTime hlast []
    · obtain rfl : lastInstant.wallTime = u := Option.some.inj (Except.ok.inj hu)
      exact (hm "localtime" hlocal).trans (if_neg (by decide))
    · simp at hnil

/-- The local time beyond the calendar is no invalid date. -/
theorem not_resolveTime_localTime :
    ¬∀ (f : Builtin) (ctx : Context) (t : Instant) (m : String), IsLocalTime m →
      resolveTime f ctx [.dateTime t, .text m] = .ok (some (ctx.options.zone.toLocal t.wallTime)) ∨
        resolveTime f ctx [.dateTime t, .text m] = .error (.invalidDate m) := by
  intro h
  have hlocal : IsLocalTime "localtime" := by decide
  have hbeyond : ¬(inJapan.options.zone.toLocal lastInstant.wallTime).InRange := by decide
  have hstep := applyModifier_localTime inJapan.options.zone hlocal lastInstant.wallTime
  rw [if_neg hbeyond] at hstep
  have hresolve : resolveTime .dateTime inJapan [.dateTime lastInstant, .text "localtime"] =
      .error .localTimeOutOfRange :=
    (resolveTime_cons rfl .dateTime _).trans (applyModifiers_of_error (.nil _) hstep [] 1)
  obtain hok | hinvalid := h .dateTime inJapan lastInstant "localtime" hlocal
  · rw [hresolve] at hok
    cases hok
  · rw [hresolve] at hinvalid
    cases hinvalid

end SqlFormula
