import Mathlib
import SqlFormula.Proofs.Aggregate.Run
import SqlFormula.Proofs.Number.Numeral

/-!
# The order of records

`count`, `min` and `max` of integers do not depend on the order of the records. `sum` goes on with doubles once a
running total leaves 64 bits, and so depends on the order unless no running total does.

## Main definitions

- `StaysWithin` — the running totals of some integers fit into 64 bits
- `Aggregate.integersIn` — the integers that an argument is in some records

## Main statements

- `RunningSum.addAll_of_staysWithin`, `RunningSum.addAll_of_not_staysWithin` — sums of integers
- `foldl_bestInteger_perm` — the least or the greatest of some integers
- `Aggregate.gathered_integers` — what is gathered from records in which the argument is an integer or NULL
- `Aggregate.resultOver_perm` — results over the same records in another order
-/

namespace SqlFormula

/-! ### Running totals -/

/-- Every running total of some integers, starting with `start`, fits into 64 bits. -/
def StaysWithin (start : Int) (is : List Int64) : Prop :=
  ∀ part, part <+: is → Number.Fits (start + (part.map Int64.toInt).sum)

theorem staysWithin_nil {start : Int} : StaysWithin start [] ↔ Number.Fits start := by
  simp [StaysWithin]

theorem staysWithin_cons {start : Int} {i : Int64} {is : List Int64} :
    StaysWithin start (i :: is) ↔ Number.Fits start ∧ StaysWithin (start + i.toInt) is := by
  constructor
  · intro h
    refine ⟨by simpa using h [] List.nil_prefix, fun part hpart => ?_⟩
    have hlonger := h (i :: part) (List.cons_prefix_cons.2 ⟨rfl, hpart⟩)
    rwa [List.map_cons, List.sum_cons, ← Int.add_assoc] at hlonger
  · rintro ⟨hstart, hrest⟩ part hpart
    cases part with
    | nil => simpa using hstart
    | cons j part =>
      obtain ⟨rfl, hlater⟩ := List.cons_prefix_cons.1 hpart
      rw [List.map_cons, List.sum_cons, ← Int.add_assoc]
      exact hrest part hlater

namespace RunningSum

/-- A sum with some integers added one after the other. -/
def addAll (s : RunningSum) (is : List Int64) : RunningSum :=
  is.foldl (fun s i => s.addInteger i) s

/-- A sum that has become a double stays one. -/
theorem addAll_rounded (x : Float) (is : List Int64) : ∃ y, addAll (.rounded x) is = .rounded y := by
  induction is generalizing x with
  | nil => exact ⟨x, rfl⟩
  | cons i is ih => exact ih _

theorem addInteger_of_fits {k i : Int64} (h : Number.Fits (k.toInt + i.toInt)) :
    ∃ m : Int64, (exact k).addInteger i = .exact m ∧ m.toInt = k.toInt + i.toInt := by
  refine ⟨Int64.ofInt (k.toInt + i.toInt), ?_, ?_⟩
  · simp only [addInteger, Number.int64?_eq_some h]
  · exact Int64.toInt_ofInt_of_le h.1 (Int.lt_add_one_of_le h.2)

theorem addInteger_of_not_fits {k i : Int64} (h : ¬Number.Fits (k.toInt + i.toInt)) :
    ∃ x, (exact k).addInteger i = .rounded x := by
  simp only [addInteger, Number.int64?, if_neg h]
  exact ⟨_, rfl⟩

/-- A sum is exact for as long as its running totals fit into 64 bits. -/
theorem addAll_of_staysWithin {k : Int64} {is : List Int64} (h : StaysWithin k.toInt is) :
    ∃ m : Int64, addAll (.exact k) is = .exact m ∧ m.toInt = k.toInt + (is.map Int64.toInt).sum := by
  induction is generalizing k with
  | nil => exact ⟨k, rfl, by simp⟩
  | cons i is ih =>
    obtain ⟨-, hrest⟩ := staysWithin_cons.1 h
    have hfits : Number.Fits (k.toInt + i.toInt) := by simpa using hrest [] List.nil_prefix
    obtain ⟨m, hadd, hm⟩ := addInteger_of_fits hfits
    rw [← hm] at hrest
    obtain ⟨n, hall, hn⟩ := ih hrest
    refine ⟨n, ?_, ?_⟩
    · rw [addAll, List.foldl_cons, hadd]
      exact hall
    · rw [hn, hm, List.map_cons, List.sum_cons, Int.add_assoc]

/-- Once a running total does not fit, the sum is a double. -/
theorem addAll_of_not_staysWithin {k : Int64} {is : List Int64} (h : ¬StaysWithin k.toInt is) :
    ∃ x, addAll (.exact k) is = .rounded x := by
  induction is generalizing k with
  | nil => exact absurd (staysWithin_nil.2 (Number.fits_toInt k)) h
  | cons i is ih =>
    by_cases hfits : Number.Fits (k.toInt + i.toInt)
    · obtain ⟨m, hadd, hm⟩ := addInteger_of_fits hfits
      have hrest : ¬StaysWithin m.toInt is := by
        intro hm'
        rw [hm] at hm'
        exact h (staysWithin_cons.2 ⟨Number.fits_toInt k, hm'⟩)
      rw [addAll, List.foldl_cons, hadd]
      exact ih hrest
    · obtain ⟨x, hadd⟩ := addInteger_of_not_fits hfits
      rw [addAll, List.foldl_cons, hadd]
      exact addAll_rounded x is

end RunningSum

/-- A sum, if there was one, with one more integer. -/
def sumStep (s : Option RunningSum) (i : Int64) : Option RunningSum :=
  some ((s.getD (.exact 0)).addInteger i)

theorem foldl_sumStep_some (s : RunningSum) (is : List Int64) : is.foldl sumStep (some s) = some (s.addAll is) := by
  induction is generalizing s with
  | nil => rfl
  | cons i is ih => exact ih _

theorem foldl_sumStep (is : List Int64) :
    is.foldl sumStep none = if is = [] then none else some (RunningSum.addAll (.exact 0) is) := by
  cases is with
  | nil => rfl
  | cons i is =>
    rw [if_neg (List.cons_ne_nil i is)]
    exact foldl_sumStep_some _ is

/-! ### The best of some integers -/

/-- The better of two integers; the first one if neither is, and the second one if there is no first. -/
def bestInteger (wanted : Ordering) (best : Option Int64) (i : Int64) : Option Int64 :=
  match best with
  | none => some i
  | some b => some (if compare i b == wanted then i else b)

theorem compare_eq_lt_iff {i j : Int64} : compare i j = .lt ↔ i.toInt < j.toInt := by
  rw [Std.compare_eq_lt, Int64.lt_iff_toInt_lt]

theorem compare_eq_gt_iff {i j : Int64} : compare i j = .gt ↔ j.toInt < i.toInt := by
  rw [Std.compare_eq_gt, Int64.lt_iff_toInt_lt]

theorem bestInteger_right_comm {wanted : Ordering} (hwanted : wanted = .lt ∨ wanted = .gt) (best : Option Int64)
    (i j : Int64) :
    bestInteger wanted (bestInteger wanted best i) j = bestInteger wanted (bestInteger wanted best j) i := by
  obtain rfl | rfl := hwanted <;> cases best <;>
    simp only [bestInteger, beq_iff_eq, compare_eq_lt_iff, compare_eq_gt_iff, Option.some.injEq, ← Int64.toInt_inj] <;>
    split_ifs <;> omega

/-- The best of some integers does not depend on their order. -/
theorem foldl_bestInteger_perm {wanted : Ordering} (hwanted : wanted = .lt ∨ wanted = .gt) {is js : List Int64}
    (h : is.Perm js) (best : Option Int64) :
    is.foldl (bestInteger wanted) best = js.foldl (bestInteger wanted) best := by
  have : RightCommutative (bestInteger wanted) := ⟨bestInteger_right_comm hwanted⟩
  exact h.foldl_eq best

/-! ### Records -/

namespace Aggregate

/-- An expression is an integer or NULL in a record. -/
def IsIntegerOrNull (ctx : Context) (arg : Expr) (record : Record) : Prop :=
  arg.eval ctx record = .ok .null ∨ ∃ i, arg.eval ctx record = .ok (.integer i)

/-- The integer that an expression is in a record, if it is one. -/
def integer? (ctx : Context) (arg : Expr) (record : Record) : Option Int64 :=
  match arg.eval ctx record with
  | .ok (.integer i) => some i
  | _ => none

/-- The integers that an expression is in some records. -/
def integersIn (ctx : Context) (arg : Expr) (records : List Record) : List Int64 :=
  records.filterMap (integer? ctx arg)

/-- The result of a call over some records. -/
def resultOver (a : Aggregate) (ctx : Context) (records : List Record) : Value :=
  (a.run ctx records a.begin).result

section

variable {a : Aggregate} {ctx : Context} {arg : Expr} {records : List Record}

/-- Where the argument is an integer or NULL, the integers are gathered. -/
theorem gathered_integers {σ : Type} {shown : σ → Gathering} {step : σ → Int64 → σ} (harg : a.argument = some arg)
    (hstep : ∀ separator s i,
      (shown s).addValue a.function separator (.integer i) = .ok (shown (step s i)))
    (hrecords : ∀ record ∈ records, IsIntegerOrNull ctx arg record) {s : σ} (hstart : a.start = shown s) :
    (a.run ctx records a.begin).gathered = shown ((integersIn ctx arg records).foldl step s) := by
  refine gathered_run_values harg (fun record hmem => ?_) hstart
  obtain hnull | ⟨i, hi⟩ := hrecords record hmem
  · exact .inl ⟨hnull, by rw [integer?, hnull]⟩
  · exact .inr ⟨.integer i, i, hi, rfl, by rw [integer?, hi], fun separator s => hstep separator s i⟩

theorem integersIn_perm {records' : List Record} (h : records.Perm records') :
    (integersIn ctx arg records).Perm (integersIn ctx arg records') :=
  h.filterMap _

/-- The call of a function with one argument. -/
def ofOne (f : Builtin) (arg : Expr) (start : Gathering) : Aggregate :=
  { function := f, argument := some arg, separator := none, start := start }

theorem resultOver_count (hrecords : ∀ record ∈ records, IsIntegerOrNull ctx arg record) :
    (ofOne .count arg (.count 0)).resultOver ctx records = .ofNat (integersIn ctx arg records).length := by
  have hgathered := @gathered_integers (ofOne .count arg (.count 0)) ctx arg records Nat .count (fun n _ => n + 1) rfl
    (fun _ _ _ => rfl) hrecords 0 rfl
  rw [resultOver, Tally.result, hgathered, List.foldl_add_const]
  simp [Gathering.result]

theorem resultOver_extreme {f : Builtin} (hrecords : ∀ record ∈ records, IsIntegerOrNull ctx arg record) :
    (ofOne f arg (.extreme none)).resultOver ctx records =
      (((integersIn ctx arg records).foldl (bestInteger f.wanted) none).map Value.integer).getD .null := by
  have hstep (separator : Unit → Except EvalError String) (best : Option Int64) (i : Int64) :
      (Gathering.extreme (best.map .integer)).addValue f separator (.integer i) =
        .ok (.extreme ((bestInteger f.wanted best i).map .integer)) := by
    cases best with
    | none => rfl
    | some b =>
      show Except.ok (Gathering.extreme (some (if compare i b == f.wanted then .integer i else .integer b))) = _
      rw [bestInteger, Option.map_some, apply_ite Value.integer]
  have hgathered := @gathered_integers (ofOne f arg (.extreme none)) ctx arg records (Option Int64)
    (fun best => .extreme (best.map .integer)) (bestInteger f.wanted) rfl hstep hrecords none rfl
  rw [resultOver, Tally.result, hgathered]
  rfl

theorem resultOver_sum (hrecords : ∀ record ∈ records, IsIntegerOrNull ctx arg record) :
    (ofOne .sum arg (.sum none)).resultOver ctx records =
      (((integersIn ctx arg records).foldl sumStep none).map RunningSum.toValue).getD .null := by
  have hgathered := @gathered_integers (ofOne .sum arg (.sum none)) ctx arg records (Option RunningSum) .sum sumStep rfl
    (fun _ _ _ => rfl) hrecords none rfl
  rw [resultOver, Tally.result, hgathered]
  rfl

/-- The sum of integers is a double just if a running total does not fit into 64 bits. -/
theorem resultOver_sum_eq_float_iff (hrecords : ∀ record ∈ records, IsIntegerOrNull ctx arg record) :
    (∃ x, (ofOne .sum arg (.sum none)).resultOver ctx records = .float x) ↔
      ¬StaysWithin 0 (integersIn ctx arg records) := by
  rw [resultOver_sum hrecords, foldl_sumStep]
  constructor
  · rintro ⟨x, hx⟩ hwithin
    obtain ⟨m, hadd, -⟩ := @RunningSum.addAll_of_staysWithin 0 _ hwithin
    rw [hadd] at hx
    split_ifs at hx <;> cases hx
  · intro hleaves
    obtain ⟨x, hadd⟩ := @RunningSum.addAll_of_not_staysWithin 0 _ hleaves
    have hne : integersIn ctx arg records ≠ [] := by
      intro hnil
      rw [hnil] at hleaves
      exact hleaves (staysWithin_nil.2 (by decide))
    rw [if_neg hne, hadd]
    exact ⟨x, rfl⟩

/-- Sums are equal in two orders in which all running totals fit into 64 bits. -/
theorem resultOver_sum_perm {records' : List Record} (hperm : records.Perm records')
    (hrecords : ∀ record ∈ records, IsIntegerOrNull ctx arg record)
    (hwithin : StaysWithin 0 (integersIn ctx arg records)) (hwithin' : StaysWithin 0 (integersIn ctx arg records')) :
    (ofOne .sum arg (.sum none)).resultOver ctx records = (ofOne .sum arg (.sum none)).resultOver ctx records' := by
  have hrecords' : ∀ record ∈ records', IsIntegerOrNull ctx arg record := fun record hmem =>
    hrecords record (hperm.mem_iff.2 hmem)
  have hintegers : (integersIn ctx arg records).Perm (integersIn ctx arg records') := integersIn_perm hperm
  obtain ⟨m, hadd, hm⟩ := @RunningSum.addAll_of_staysWithin 0 _ hwithin
  obtain ⟨m', hadd', hm'⟩ := @RunningSum.addAll_of_staysWithin 0 _ hwithin'
  have htotal : m = m' := by
    rw [← Int64.toInt_inj, hm, hm', (hintegers.map Int64.toInt).sum_eq]
  have hnil : integersIn ctx arg records = [] ↔ integersIn ctx arg records' = [] := by
    rw [← List.length_eq_zero_iff, ← List.length_eq_zero_iff, hintegers.length_eq]
  rw [resultOver_sum hrecords, resultOver_sum hrecords', foldl_sumStep, foldl_sumStep, hadd, hadd', htotal]
  simp only [hnil]

/-- **The results of `count`, `min` and `max` do not depend on the order of the records** where the argument is an
integer or NULL. Those of `sum` are equal if no running total leaves 64 bits in either order, and are doubles where one
does. -/
theorem resultOver_perm {records' : List Record} (hperm : records.Perm records')
    (hrecords : ∀ record ∈ records, IsIntegerOrNull ctx arg record) :
    (∀ f ∈ [Builtin.count, .min, .max], ∃ a, ofExpr (.call f [arg]) = .ok a ∧
        a.resultOver ctx records = a.resultOver ctx records') ∧
      ∃ a, ofExpr (.call .sum [arg]) = .ok a ∧
        ((∃ x, a.resultOver ctx records = .float x) ↔ ¬StaysWithin 0 (integersIn ctx arg records)) ∧
        (StaysWithin 0 (integersIn ctx arg records) → StaysWithin 0 (integersIn ctx arg records') →
          a.resultOver ctx records = a.resultOver ctx records') := by
  have hrecords' : ∀ record ∈ records', IsIntegerOrNull ctx arg record := fun record hmem =>
    hrecords record (hperm.mem_iff.2 hmem)
  have hintegers : (integersIn ctx arg records).Perm (integersIn ctx arg records') := integersIn_perm hperm
  have hextreme {f : Builtin} (hf : f.wanted = .lt ∨ f.wanted = .gt) :
      (ofOne f arg (.extreme none)).resultOver ctx records = (ofOne f arg (.extreme none)).resultOver ctx records' := by
    rw [resultOver_extreme hrecords, resultOver_extreme hrecords', foldl_bestInteger_perm hf hintegers]
  constructor
  · intro f hf
    simp only [List.mem_cons, List.not_mem_nil, or_false] at hf
    obtain rfl | rfl | rfl := hf
    · refine ⟨ofOne .count arg (.count 0), rfl, ?_⟩
      rw [resultOver_count hrecords, resultOver_count hrecords', hintegers.length_eq]
    · exact ⟨ofOne .min arg (.extreme none), rfl, hextreme (.inl rfl)⟩
    · exact ⟨ofOne .max arg (.extreme none), rfl, hextreme (.inr rfl)⟩
  · exact ⟨ofOne .sum arg (.sum none), rfl, resultOver_sum_eq_float_iff hrecords, resultOver_sum_perm hperm hrecords⟩

end

/-- Records with one field. -/
def recordsOf (vs : List Value) : List Record :=
  vs.map fun v => [("x", v)]

theorem isIntegerOrNull_recordsOf {ctx : Context} {vs : List Value} (h : ∀ v ∈ vs, v = .null ∨ ∃ i, v = .integer i) :
    ∀ record ∈ recordsOf vs, IsIntegerOrNull ctx (.field "x") record := by
  intro record hmem
  obtain ⟨v, hv, rfl⟩ := List.mem_map.1 hmem
  obtain rfl | ⟨i, rfl⟩ := h v hv
  · exact .inl rfl
  · exact .inr ⟨i, rfl⟩

/-- The sum of the fields. -/
def sumOfX : Aggregate :=
  ofOne .sum (.field "x") (.sum none)

/-- Integers and a NULL whose running totals stay within 64 bits from both ends. -/
def mixedSigns : List Value :=
  [.integer 3, .null, .integer Int64.minValue, .integer 7]

theorem resultOver_perm_mixedSigns :
    (recordsOf mixedSigns).Perm (recordsOf mixedSigns.reverse) ∧
      (∀ record ∈ recordsOf mixedSigns, IsIntegerOrNull default (.field "x") record) ∧
      sumOfX.resultOver default (recordsOf mixedSigns) = sumOfX.resultOver default (recordsOf mixedSigns.reverse) := by
  have hperm : (recordsOf mixedSigns).Perm (recordsOf mixedSigns.reverse) := (List.reverse_perm mixedSigns).symm.map _
  have hrecords := @isIntegerOrNull_recordsOf default mixedSigns (by simp [mixedSigns])
  obtain ⟨-, a, ha, -, hsum⟩ := resultOver_perm hperm hrecords
  cases ha
  refine ⟨hperm, hrecords, hsum ?_ ?_⟩
  · show StaysWithin 0 [3, Int64.minValue, 7]
    simp only [staysWithin_cons, staysWithin_nil]
    decide
  · show StaysWithin 0 [7, Int64.minValue, 3]
    simp only [staysWithin_cons, staysWithin_nil]
    decide

/-- Integers whose running total leaves 64 bits from the front only. -/
def leavesOnce : List Value :=
  [.integer Int64.maxValue, .integer 1, .integer (-1)]

/-- Integers whose running total leaves 64 bits from both ends. Two of them are lost in rounding when each is added on
its own, but not when they are added together. -/
def leavesTwice : List Value :=
  [.integer Int64.maxValue, .integer 1024, .integer 1024]

/-- The sum of integers depends on their order: it is an integer or a double, and a double may be rounded in two ways. -/
theorem resultOver_sum_ne : ofExpr (.call .sum [.field "x"]) = .ok sumOfX ∧ ∀ vs ∈ [leavesOnce, leavesTwice],
    (recordsOf vs).Perm (recordsOf vs.reverse) ∧
      (∀ record ∈ recordsOf vs, IsIntegerOrNull default (.field "x") record) ∧
      sumOfX.resultOver default (recordsOf vs) ≠ sumOfX.resultOver default (recordsOf vs.reverse) := by
  refine ⟨rfl, List.forall_mem_cons.2 ⟨?_, List.forall_mem_singleton.2 ?_⟩⟩
  · refine ⟨(List.reverse_perm leavesOnce).symm.map _, isIntegerOrNull_recordsOf (by simp [leavesOnce]), ?_⟩
    have hfront : ∃ x, sumOfX.resultOver default (recordsOf leavesOnce) = .float x := ⟨_, rfl⟩
    have hback : sumOfX.resultOver default (recordsOf leavesOnce.reverse) = .integer Int64.maxValue := rfl
    obtain ⟨x, hx⟩ := hfront
    rw [hx, hback]
    exact nofun
  · refine ⟨(List.reverse_perm leavesTwice).symm.map _, isIntegerOrNull_recordsOf (by simp [leavesTwice]), ?_⟩
    have hfront : sumOfX.resultOver default (recordsOf leavesTwice) =
        .float (Number.ofInt64 Int64.maxValue + Number.ofInt64 1024 + Number.ofInt64 1024) := rfl
    have hback : sumOfX.resultOver default (recordsOf leavesTwice.reverse) =
        .float (Number.ofInt64 2048 + Number.ofInt64 Int64.maxValue) := rfl
    rw [hfront, hback]
    intro heq
    have hbits := congrArg Float.toBits (Value.float.inj heq)
    revert hbits
    decide +kernel

end Aggregate

end SqlFormula
