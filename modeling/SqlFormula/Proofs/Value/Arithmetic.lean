import SqlFormula.Proofs.Value.Whole
import SqlFormula.Value.Arithmetic

/-!
# Arithmetic on integers

Integers of 64 bits, and booleans and texts that stand for them, are added, subtracted, multiplied and divided exactly. A
result that does not fit into 64 bits is formed among doubles instead: a sum, a difference, a product, or the quotient of
the least integer and -1. A remainder always fits.

## Main definitions

- `TruncatedDivision` — a quotient rounded toward zero, and the remainder that is left
- `ExactResult` — the exact result of an operator on integers

## Main statements

- `exactResult?_eq_some_iff` — what an operator computes is its exact result
- `fits_of_quotient`, `fits_of_remainder` — the quotients and the remainders that fit
- `arithmetic_exact` — when operators on integers fail, when they are exact, and when they are not
-/

namespace SqlFormula

/-! ### Exact results -/

/-- The quotient `q` of `i` and `j` is rounded toward zero: the remainder `r` is smaller than the divisor, and has the sign
of `i` unless it is zero. -/
structure TruncatedDivision (i j q r : Int) : Prop where
  eq : q * j + r = i
  lt : r.natAbs < j.natAbs
  sign : 0 ≤ r * i

/-- The exact result of an operator on integers. Nothing is a quotient or a remainder of a division by zero. -/
inductive ExactResult (i j : Int) : BinaryOperator → Int → Prop
  | add : ExactResult i j .add (i + j)
  | subtract : ExactResult i j .subtract (i - j)
  | multiply : ExactResult i j .multiply (i * j)
  | divide {q r : Int} (h : TruncatedDivision i j q r) : ExactResult i j .divide q
  | modulo {q r : Int} (h : TruncatedDivision i j q r) : ExactResult i j .modulo r

section

variable {i j q r : Int}

theorem TruncatedDivision.ne_zero (h : TruncatedDivision i j q r) : j ≠ 0 := by
  rintro rfl
  exact absurd h.lt (Nat.not_lt_zero _)

theorem truncatedDivision_iff (hj : j ≠ 0) : TruncatedDivision i j q r ↔ i.tdiv j = q ∧ i.tmod j = r := by
  constructor
  · rintro ⟨heq, hlt, hsign⟩
    obtain hi | rfl | hi := lt_trichotomy i 0
    · have hr : r ≤ 0 := nonpos_of_mul_nonneg_left hsign hi
      exact (Int.tdiv_tmod_unique' hi.le hj).2 ⟨by linarith, by omega, hr⟩
    · -- a remainder of zero is a multiple of the divisor, and smaller
      have hr : r = 0 := Int.eq_zero_of_dvd_of_natAbs_lt_natAbs ⟨-q, by linarith⟩ hlt
      exact (Int.tdiv_tmod_unique le_rfl hj).2 ⟨by linarith, by omega, by omega⟩
    · have hr : 0 ≤ r := nonneg_of_mul_nonneg_left hsign hi
      exact (Int.tdiv_tmod_unique hi.le hj).2 ⟨by linarith, hr, by omega⟩
  · rintro ⟨rfl, rfl⟩
    have heq := Int.tmod_add_mul_tdiv i j
    refine ⟨by linarith, ?_, ?_⟩
    · rw [Int.natAbs_tmod]
      exact Nat.mod_lt _ (Int.natAbs_pos.2 hj)
    · obtain hi | hi := le_total 0 i
      · exact mul_nonneg (Int.tmod_nonneg j hi) hi
      · refine mul_nonneg_of_nonpos_of_nonpos ?_ hi
        have hneg : 0 ≤ (-i).tmod j := Int.tmod_nonneg j (by omega)
        rw [Int.neg_tmod] at hneg
        omega

/-- What is computed is the exact result. -/
theorem exactResult?_eq_some_iff {op : BinaryOperator} : exactResult? op i j = some r ↔ ExactResult i j op r := by
  constructor
  · intro h
    unfold exactResult? at h
    split at h
    · cases h
      exact .add
    · cases h
      exact .subtract
    · cases h
      exact .multiply
    · obtain ⟨hj, h⟩ := Option.ite_none_left_eq_some.1 h
      exact .divide ((truncatedDivision_iff hj).2 ⟨Option.some.inj h, rfl⟩)
    · obtain ⟨hj, h⟩ := Option.ite_none_left_eq_some.1 h
      exact .modulo ((truncatedDivision_iff hj).2 ⟨rfl, Option.some.inj h⟩)
    · cases h
  · intro h
    cases h with
    | add | subtract | multiply => rfl
    | divide h => rw [exactResult?, if_neg h.ne_zero, ((truncatedDivision_iff h.ne_zero).1 h).1]
    | modulo h => rw [exactResult?, if_neg h.ne_zero, ((truncatedDivision_iff h.ne_zero).1 h).2]

/-! ### Results that fit -/

/-- A remainder is smaller than the divisor. -/
theorem fits_of_remainder (h : TruncatedDivision i j q r) (hj : Number.Fits j) : Number.Fits r := by
  have hlt := h.lt
  unfold Number.Fits at hj ⊢
  omega

/-- Dividing by anything but 1 and -1 at least halves an integer. -/
theorem fits_of_quotient (h : TruncatedDivision i j q r) (hi : Number.Fits i) (hj : j ≠ -1) : Number.Fits q := by
  have hzero := h.ne_zero
  obtain ⟨rfl, -⟩ := (truncatedDivision_iff hzero).1 h
  by_cases hone : j = 1
  · rwa [hone, Int.tdiv_one]
  · have hle : (i.tdiv j).natAbs ≤ i.natAbs / 2 := by
      rw [Int.natAbs_tdiv]
      exact Nat.div_le_div_left (by omega) Nat.two_pos
    unfold Number.Fits at hi ⊢
    omega

end

/-! ### Outcomes -/

/-- The operators `+`, `-`, `*`, `/` and `%`. -/
def arithmeticOperators : List BinaryOperator :=
  [.add, .subtract, .multiply, .divide, .modulo]

/-- An outcome is the integer `r` if `r` fits into 64 bits, and a double if it does not. -/
structure ExactOrRounded (outcome : Except EvalError Value) (r : Int) : Prop where
  integer_iff : ∀ k, outcome = .ok (.integer k) ↔ k.toInt = r
  float_iff : (∃ x, outcome = .ok (.float x)) ↔ ¬Number.Fits r

namespace ExactOrRounded

variable {outcome : Except EvalError Value} {r : Int}

theorem of_integer {k : Int64} (hk : k.toInt = r) (h : outcome = .ok (.integer k)) : ExactOrRounded outcome r where
  integer_iff l := by
    rw [h, Except.ok.injEq, Value.integer.injEq, ← hk, Int64.toInt_inj]
    exact eq_comm
  float_iff := by
    refine iff_of_false ?_ (not_not.2 (hk ▸ Number.fits_toInt k))
    rintro ⟨x, hx⟩
    rw [h] at hx
    cases hx

theorem of_float {x : Float} (hr : ¬Number.Fits r) (h : outcome = .ok (.float x)) : ExactOrRounded outcome r where
  integer_iff l := by
    refine iff_of_false (fun hl => ?_) (fun hl => hr (hl ▸ Number.fits_toInt l))
    rw [h] at hl
    cases hl
  float_iff := iff_of_true ⟨x, h⟩ hr

theorem ne_error (h : ExactOrRounded outcome r) (e : EvalError) : outcome ≠ .error e := by
  rintro rfl
  by_cases hr : Number.Fits r
  · obtain ⟨k, -, hk⟩ := Number.exists_int64? hr
    cases (h.integer_iff k).2 hk
  · obtain ⟨x, hx⟩ := h.float_iff.2 hr
    cases hx

end ExactOrRounded

section

variable {op : BinaryOperator} {v w : Value} {i j : Int64}

theorem arithmetic_of_standsFor (hv : v.StandsFor i) (hw : w.StandsFor j) :
    arithmetic op v w = integerArithmetic op i j := by
  rw [Value.standsFor_iff] at hv hw
  rw [arithmetic, Value.isNull_of_whole? hv, Value.isNull_of_whole? hw, Value.toNumber?_of_whole? hv,
    Value.toNumber?_of_whole? hw]
  rfl

theorem integerArithmetic_by_zero (hop : op = .divide ∨ op = .modulo) :
    integerArithmetic op i 0 = .error .divisionByZero := by
  have hzero : (Number.ofInt64 0 == 0.0) = true := by decide
  obtain rfl | rfl := hop <;>
  · rw [integerArithmetic, exactResult?, if_pos Int64.toInt_zero, Option.bind_none, floatArithmetic, if_pos hzero]

/-- Doubles take over where the exact result does not fit, and never divide by zero then: such a divisor is -1. -/
theorem exists_floatArithmetic {r : Int} (hr : ExactResult i.toInt j.toInt op r) (hfits : ¬Number.Fits r) :
    ∃ x, floatArithmetic op (Number.ofInt64 i) (Number.ofInt64 j) = .ok (.float x) := by
  cases hr with
  | add | subtract | multiply => exact ⟨_, rfl⟩
  | divide h =>
    have hj : j = -1 := by
      by_contra hne
      exact hfits (fits_of_quotient h (Number.fits_toInt i) fun heq => hne (Int64.toInt_inj.1 heq))
    have hzero : (Number.ofInt64 (-1) == 0.0) = false := by decide
    rw [hj, floatArithmetic, hzero]
    exact ⟨_, rfl⟩
  | modulo h => exact absurd (fits_of_remainder h (Number.fits_toInt j)) hfits

theorem exactOrRounded_integerArithmetic {r : Int} (hr : ExactResult i.toInt j.toInt op r) :
    ExactOrRounded (integerArithmetic op i j) r := by
  have hexact := exactResult?_eq_some_iff.2 hr
  by_cases hfits : Number.Fits r
  · obtain ⟨k, hk, hkr⟩ := Number.exists_int64? hfits
    refine .of_integer hkr ?_
    rw [integerArithmetic, hexact, Option.bind_some, hk]
  · obtain ⟨x, hx⟩ := exists_floatArithmetic hr hfits
    refine .of_float hfits (x := x) ?_
    rw [integerArithmetic, hexact, Option.bind_some, Number.int64?, if_neg hfits, hx]

/-- A result exists unless something is divided by zero. -/
theorem exists_exactResult {i j : Int} (hop : op ∈ arithmeticOperators)
    (hj : ¬((op = .divide ∨ op = .modulo) ∧ j = 0)) : ∃ r, ExactResult i j op r := by
  have hdivision (hne : j ≠ 0) : TruncatedDivision i j (i.tdiv j) (i.tmod j) := (truncatedDivision_iff hne).2 ⟨rfl, rfl⟩
  simp only [arithmeticOperators, List.mem_cons, List.not_mem_nil, or_false] at hop
  obtain rfl | rfl | rfl | rfl | rfl := hop
  · exact ⟨_, .add⟩
  · exact ⟨_, .subtract⟩
  · exact ⟨_, .multiply⟩
  · exact ⟨_, .divide (hdivision fun h => hj ⟨.inl rfl, h⟩)⟩
  · exact ⟨_, .modulo (hdivision fun h => hj ⟨.inr rfl, h⟩)⟩

/-- The negative of an integer is exact if there is one. -/
theorem exactOrRounded_negate (hv : v.StandsFor i) : ExactOrRounded (negate v) (-i.toInt) := by
  have heq : negate v = .ok (negateInteger i) := by
    rw [Value.standsFor_iff] at hv
    rw [negate, Value.isNull_of_whole? hv, Value.toNumber?_of_whole? hv]
    rfl
  by_cases hfits : Number.Fits (-i.toInt)
  · obtain ⟨k, hk, hki⟩ := Number.exists_int64? hfits
    refine .of_integer hki ?_
    rw [heq, negateInteger, hk]
  · refine .of_float hfits (x := -Number.ofInt64 i) ?_
    rw [heq, negateInteger, Number.int64?, if_neg hfits]

theorem fits_neg_iff : Number.Fits (-i.toInt) ↔ i ≠ Int64.minValue := by
  have hfits := Number.fits_toInt i
  rw [Ne, ← Int64.toInt_inj, Int64.toInt_minValue]
  unfold Number.Fits at hfits ⊢
  omega

/-- **Arithmetic on integers is exact for as long as the result fits, and fails only by a division by zero.** -/
theorem arithmetic_exact (hv : v.StandsFor i) (hw : w.StandsFor j) :
    (∀ op ∈ arithmeticOperators,
      (arithmetic op v w = .error .divisionByZero ↔ (op = .divide ∨ op = .modulo) ∧ j = 0) ∧
      (¬((op = .divide ∨ op = .modulo) ∧ j = 0) → ∃ r, ExactResult i.toInt j.toInt op r) ∧
      ∀ r, ExactResult i.toInt j.toInt op r →
        ExactOrRounded (arithmetic op v w) r ∧ (op = .modulo → Number.Fits r)) ∧
    ExactOrRounded (negate v) (-i.toInt) ∧ (Number.Fits (-i.toInt) ↔ i ≠ Int64.minValue) := by
  refine ⟨fun op hop => ?_, exactOrRounded_negate hv, fits_neg_iff⟩
  have hresult : ¬((op = .divide ∨ op = .modulo) ∧ j = 0) → ∃ r, ExactResult i.toInt j.toInt op r := by
    rw [← Int64.toInt_inj, Int64.toInt_zero]
    exact exists_exactResult hop
  rw [arithmetic_of_standsFor hv hw]
  refine ⟨⟨fun h => ?_, ?_⟩, hresult, fun r hr => ⟨exactOrRounded_integerArithmetic hr, ?_⟩⟩
  · by_contra hzero
    obtain ⟨r, hr⟩ := hresult hzero
    exact (exactOrRounded_integerArithmetic hr).ne_error _ h
  · rintro ⟨hdivision, rfl⟩
    exact integerArithmetic_by_zero hdivision
  · rintro rfl
    cases hr with
    | modulo h => exact fits_of_remainder h (Number.fits_toInt j)

end

/-- The least integer, as a text with blanks around it. -/
def leastText : Value :=
  .text " -9223372036854775808\t"

theorem arithmetic_exact_least :
    leastText.StandsFor Int64.minValue ∧ Value.StandsFor (.integer (-1)) (-1) ∧
      (∃ x, arithmetic .divide leastText (.integer (-1)) = .ok (.float x)) ∧
      arithmetic .modulo leastText (.integer (-1)) = .ok (.integer 0) ∧
      ∃ x, negate leastText = .ok (.float x) := by
  have hleast : leastText.StandsFor Int64.minValue := Value.standsFor_iff.2 (by decide)
  obtain ⟨harithmetic, hnegate, hfits⟩ := arithmetic_exact hleast (.integer (-1))
  have hquotient : ExactResult Int64.minValue.toInt (Int64.toInt (-1)) .divide 9223372036854775808 :=
    .divide (r := 0) ⟨by decide, by decide, by decide⟩
  have hremainder : ExactResult Int64.minValue.toInt (Int64.toInt (-1)) .modulo 0 :=
    .modulo (q := 9223372036854775808) ⟨by decide, by decide, by decide⟩
  refine ⟨hleast, .integer (-1), ?_, ?_, ?_⟩
  · exact ((harithmetic .divide (by decide)).2.2 _ hquotient).1.float_iff.2 (by decide)
  · exact (((harithmetic .modulo (by decide)).2.2 _ hremainder).1.integer_iff 0).2 (by decide)
  · exact hnegate.float_iff.2 (hfits.not.2 (not_not.2 rfl))

end SqlFormula
