import SqlFormula.Proofs.Instant.ReadBack
import SqlFormula.Proofs.Number.Exact
import SqlFormula.Proofs.Value.Comparison

/-!
# Where the order of values is the order of numbers

Integers and finite doubles stand for numbers, and instants for points on the line of numbers. The order of two values
of different kinds is not always the order of these: an integer is rounded to a double before it is compared with one,
and the fraction of an instant is left out before it is compared with a number.

## Main definitions

- `Instant.epochTime` — the exact time of an instant in seconds
- `Value.number?` — the number that an integer or a double stands for
- `Value.ComparedAs` — the outcome of a comparison, whatever asks for it

## Main statements

- `Value.integer_float_order` — integers are compared with doubles exactly, unless they are rounded to the same double
- `Value.dateTime_number_order` — instants are compared with numbers by their whole seconds
-/

namespace SqlFormula

/-- The exact number of seconds since the beginning of 1970. -/
def Instant.epochTime (t : Instant) : ℚ :=
  t.seconds + t.nanos / nanosPerSecond

namespace Instant

theorem epochTime_eq_seconds_iff (t : Instant) : (t.seconds : ℚ) = t.epochTime ↔ t.nanos = 0 := by
  rw [epochTime, left_eq_add, div_eq_zero_iff]
  simp [nanosPerSecond]

theorem seconds_le_epochTime (t : Instant) : (t.seconds : ℚ) ≤ t.epochTime :=
  le_add_of_nonneg_right (by positivity)

end Instant

namespace Value

/-- The number that an integer or a finite double stands for. -/
def number? : Value → Option ℚ
  | .integer i => some i.toInt
  | .float x => Number.value? x
  | _ => none

/-- The outcome of comparing two values, in either order, on their own or for an operator. -/
structure ComparedAs (c : Collation) (v w : Value) (o : Ordering) : Prop where
  left : compareWith c v w = o
  right : compareWith c w v = o.swap
  left_operator (operator : String) : orderFor operator c v w = .ok o
  right_operator (operator : String) : orderFor operator c w v = .ok o.swap

section

variable {c : Collation}

theorem comparedAs_of_eq_some {v w : Value} {o : Ordering} (h : coercedOrdering? c v w = some o) :
    ComparedAs c v w o := by
  have hswap : coercedOrdering? c w v = some o.swap := by rw [coercedOrdering?_swap, h, Option.map_some]
  constructor
  · rw [compareWith, h]
    rfl
  · rw [compareWith, hswap]
    rfl
  · intro operator
    rw [orderFor, h]
  · intro operator
    rw [orderFor, hswap]

/-! ### Integers and doubles -/

/-- A number next to which there is no double but the one that it is rounded to has the order of that double with the
others. -/
theorem compare_rounded {a i r : ℚ} (hlow : r ≤ i → r ≤ a) (hhigh : i ≤ r → a ≤ r) :
    compare a r = if a = r then .eq else compare i r := by
  split_ifs with heq
  · exact compare_eq_iff_eq.2 heq
  · obtain hlt | rfl | hgt := lt_trichotomy i r
    · rw [compare_lt_iff_lt.2 hlt, compare_lt_iff_lt]
      exact lt_of_le_of_ne (hhigh hlt.le) heq
    · exact absurd (le_antisymm (hhigh le_rfl) (hlow le_rfl)) heq
    · rw [compare_gt_iff_gt.2 hgt, compare_gt_iff_gt]
      exact lt_of_le_of_ne' (hlow hgt.le) heq

/-- **An integer and a double are compared exactly, unless the double is the one that the integer is rounded to**: then
they are equal, whether or not the numbers are. No double lies between the integer and the one that it is rounded to, and
integers of up to 53 bits are rounded to themselves. -/
theorem integer_float_order (c : Collation) (i : Int64) {f : Float} {r : ℚ} (hf : Number.value? f = some r) :
    ∃ a : ℚ, Number.value? (Number.ofInt64 i) = some a ∧
      ComparedAs c (.integer i) (.float f) (if a = r then .eq else compare (i.toInt : ℚ) r) ∧
      equals (.integer i) (.float f) = decide (a = r) ∧ equals (.float f) (.integer i) = decide (a = r) ∧
      (∀ (x : Float) (s : ℚ), Number.value? x = some s → (s ≤ i.toInt → s ≤ a) ∧ ((i.toInt : ℚ) ≤ s → a ≤ s)) ∧
      (i.toInt.natAbs ≤ 2 ^ 53 → a = i.toInt) := by
  obtain ⟨a, ha, hkeeps⟩ := Number.exists_value?_ofInt (Number.fits_toInt i)
  have horder : compareFloats (Number.ofInt64 i) f = compare a r := Number.compareFloats_of_value? ha hf
  have hswap : compareFloats f (Number.ofInt64 i) = compare r a := Number.compareFloats_of_value? hf ha
  refine ⟨a, ha, comparedAs_of_eq_some ?_, ?_, ?_, fun x s hx => hkeeps hx, ?_⟩
  · obtain ⟨hlow, hhigh⟩ := hkeeps hf
    rw [← compare_rounded hlow hhigh, ← horder]
    rfl
  · show (compareFloats (Number.ofInt64 i) f == .eq) = _
    rw [horder, Bool.eq_iff_iff, beq_iff_eq, decide_eq_true_iff, compare_eq_iff_eq]
  · show (compareFloats f (Number.ofInt64 i) == .eq) = _
    rw [hswap, Bool.eq_iff_iff, beq_iff_eq, decide_eq_true_iff, compare_eq_iff_eq, eq_comm]
  · intro hsmall
    exact Option.some.inj (ha.symm.trans (Number.value?_ofInt_of_le hsmall))

theorem integer_float_order_rounded :
    Number.value? 9007199254740992.0 = some 9007199254740992 ∧
      ComparedAs .binary (.integer 9007199254740993) (.float 9007199254740992.0) .eq ∧
      equals (.integer 9007199254740993) (.float 9007199254740992.0) = true := by
  have hf : Number.value? 9007199254740992.0 = some 9007199254740992 := by with_unfolding_all decide
  have ha : Number.value? (Number.ofInt64 9007199254740993) = some 9007199254740992 := by with_unfolding_all decide
  obtain ⟨a, ha', hordered, hequals, -⟩ := integer_float_order .binary 9007199254740993 hf
  obtain rfl : 9007199254740992 = a := Option.some.inj (ha.symm.trans ha')
  exact ⟨hf, hordered, hequals⟩

/-- Different numbers can be equal: an integer of 54 bits and the double next to it. -/
theorem integer_float_order_inexact :
    ¬∀ (c : Collation) (i : Int64) (f : Float) (r : ℚ), Number.value? f = some r →
      ComparedAs c (.integer i) (.float f) (compare (i.toInt : ℚ) r) ∧
        (equals (.integer i) (.float f) = true → (i.toInt : ℚ) = r) := by
  intro h
  have horder := (h .binary 9007199254740993 9007199254740992.0 9007199254740992 (by with_unfolding_all decide)).1.left
  revert horder
  with_unfolding_all decide

/-! ### Instants and numbers -/

/-- What is told apart from `s` and from a greater `e` alike does not lie between them. -/
theorem compare_eq_compare_iff {s e : ℚ} (h : s ≤ e) (r : ℚ) :
    compare s r = compare e r ↔ s = e ∨ r < s ∨ e < r := by
  constructor
  · intro heq
    obtain hlt | rfl | hgt := lt_trichotomy s r
    · rw [compare_lt_iff_lt.2 hlt, eq_comm, compare_lt_iff_lt] at heq
      exact .inr (.inr heq)
    · rw [compare_eq_iff_eq.2 rfl, eq_comm, compare_eq_iff_eq] at heq
      exact .inl heq.symm
    · exact .inr (.inl hgt)
  · rintro (rfl | hlow | hhigh)
    · rfl
    · rw [compare_gt_iff_gt.2 hlow, compare_gt_iff_gt.2 (hlow.trans_le h)]
    · rw [compare_lt_iff_lt.2 (h.trans_lt hhigh), compare_lt_iff_lt.2 hhigh]

/-- Where an instant has the same order with another one as with the time of that one. -/
theorem compare_eq_compare_epochTime_iff (t u : Instant) :
    t.compare u = compare (t.seconds : ℚ) u.epochTime ↔
      u.epochTime < t.seconds ∨ t.seconds < u.seconds ∨
        t.seconds = u.seconds ∧ (t.nanos < u.nanos ∨ t.nanos = 0 ∧ u.nanos = 0) := by
  have hle := u.seconds_le_epochTime
  obtain hlt | heq | hgt := lt_trichotomy t.seconds u.seconds
  · have hlt' : (t.seconds : ℚ) < u.epochTime := lt_of_lt_of_le (by exact_mod_cast hlt) hle
    rw [Instant.compare, compare_lt_iff_lt.2 hlt, compare_lt_iff_lt.2 hlt']
    simp [hlt]
  · -- the fractions decide, and on the side of numbers only whether there is one
    rw [Instant.compare, compare_eq_iff_eq.2 heq, Ordering.eq_then, heq]
    by_cases hzero : u.nanos = 0
    · rw [compare_eq_iff_eq.2 (u.epochTime_eq_seconds_iff.2 hzero), compare_eq_iff_eq, hzero]
      simp [(u.epochTime_eq_seconds_iff.2 hzero).symm]
    · have hlt := lt_of_le_of_ne hle (mt u.epochTime_eq_seconds_iff.1 hzero)
      rw [compare_lt_iff_lt.2 hlt, compare_lt_iff_lt]
      simp [hzero, hlt.le]
  · rw [Instant.compare, compare_gt_iff_gt.2 hgt, Ordering.gt_then, eq_comm, compare_gt_iff_gt]
    simp [hgt.le, hgt.ne']

/-- Instants are compared with numbers by their whole seconds, which are integers of up to 53 bits. -/
theorem compareInstantNumber_eq (t : Instant) {v : Value} {r : ℚ} (hv : v.number? = some r) :
    compareInstantNumber t v = compare (t.seconds : ℚ) r := by
  have hseconds := t.toInt_ofInt_seconds
  cases v with
  | integer j =>
    obtain rfl : (j.toInt : ℚ) = r := Option.some.inj hv
    rw [compare_intCast, ← hseconds, compare_toInt]
    rfl
  | float y =>
    have hsmall : t.seconds.natAbs ≤ 2 ^ 53 := by
      obtain ⟨hfirst, hlast⟩ := t.valid.1
      simp only [Instant.firstSecond, Instant.lastSecond] at hfirst hlast
      omega
    have hexact : Number.value? (Number.ofInt64 (Int64.ofInt t.seconds)) = some (t.seconds : ℚ) := by
      rw [Number.ofInt64, hseconds, Number.value?_ofInt_of_le hsmall]
    exact Number.compareFloats_of_value? hexact hv
  | _ => cases hv

theorem coercedOrdering?_dateTime_number (t : Instant) {v : Value} {r : ℚ} (hv : v.number? = some r) :
    coercedOrdering? c (.dateTime t) v = some (compare (t.seconds : ℚ) r) := by
  rw [← compareInstantNumber_eq t hv]
  cases v with
  | integer j => rfl
  | float y => rfl
  | _ => cases hv

/-- **An instant is compared with a number by its whole seconds.** That is the order of its exact time unless the number
lies between the two, and the order with an instant at that number only where the fractions do not matter. -/
theorem dateTime_number_order (c : Collation) (t : Instant) {v : Value} {r : ℚ} (hv : v.number? = some r) :
    ComparedAs c (.dateTime t) v (compare (t.seconds : ℚ) r) ∧
      (compare (t.seconds : ℚ) r = compare t.epochTime r ↔ t.nanos = 0 ∨ r < t.seconds ∨ t.epochTime < r) ∧
      ∀ u : Instant, u.epochTime = r →
        (compareWith c (.dateTime t) (.dateTime u) = compareWith c (.dateTime t) v ↔
          r < t.seconds ∨ t.seconds < u.seconds ∨
            t.seconds = u.seconds ∧ (t.nanos < u.nanos ∨ t.nanos = 0 ∧ u.nanos = 0)) := by
  have hordered := comparedAs_of_eq_some (coercedOrdering?_dateTime_number (c := c) t hv)
  refine ⟨hordered, ?_, ?_⟩
  · rw [compare_eq_compare_iff t.seconds_le_epochTime, t.epochTime_eq_seconds_iff]
  · rintro u rfl
    rw [hordered.left, ← compare_eq_compare_epochTime_iff]
    rfl

theorem dateTime_number_order_fraction :
    (Value.float 1.5).number? = some (3 / 2) ∧
      ComparedAs .binary (.dateTime ⟨1, 500000000, by decide⟩) (.float 1.5) .lt ∧
      compareWith .binary (.dateTime ⟨1, 500000000, by decide⟩) (.dateTime ⟨1, 500000000, by decide⟩) ≠
        compareWith .binary (.dateTime ⟨1, 500000000, by decide⟩) (.float 1.5) := by
  have hv : (Value.float 1.5).number? = some (3 / 2) := by with_unfolding_all decide
  have hless : compare (((1 : Int) : ℚ)) (3 / 2) = .lt := by with_unfolding_all decide
  obtain ⟨hordered, -, hinstants⟩ := dateTime_number_order .binary ⟨1, 500000000, by decide⟩ hv
  refine ⟨hv, hless ▸ hordered, mt (hinstants ⟨1, 500000000, by decide⟩ (by with_unfolding_all decide)).1 ?_⟩
  with_unfolding_all decide

/-- An instant half a second after a whole number of seconds has the order of that number. -/
theorem dateTime_number_order_truncated :
    ¬∀ (c : Collation) (t : Instant) (v : Value) (r : ℚ), v.number? = some r →
      ComparedAs c (.dateTime t) v (compare t.epochTime r) := by
  intro h
  have horder := (h .binary ⟨1, 500000000, by decide⟩ (.integer 1) 1 (by with_unfolding_all decide)).left
  revert horder
  with_unfolding_all decide

end

end Value

end SqlFormula
