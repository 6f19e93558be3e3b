import SqlFormula.Proofs.Aggregate.RowOrder
import SqlFormula.Proofs.Outcome
import SqlFormula.Proofs.Value.Whole

/-!
# How long a sum stays exact

A sum is formed among 64-bit integers, and goes on as a double from the first running total that does not fit. Booleans
count as 1 and 0, texts of integers as what they say, and NULL as nothing. So after each record it is known whether the sum
is the exact one, and once it is a double it stays one, whatever comes later.

## Main definitions

- `Aggregate.wholesIn` — the integers that an argument counts as in some records

## Main statements

- `Aggregate.gathered_wholes` — what a sum has gathered from records in which the argument counts as an integer or is NULL
- `Aggregate.exists_rounded_run` — a sum that is a double stays one
- `Aggregate.result_sum_steps` — the result of a sum after each record
-/

namespace SqlFormula

/-- A value that counts as an integer is added to a sum as that integer. -/
theorem addValue_of_whole? {v : Value} {i : Int64} (h : v.whole? = some i) (f : Builtin)
    (separator : Unit → Except EvalError String) (s : Option RunningSum) :
    (Gathering.sum s).addValue f separator v = .ok (.sum (sumStep s i)) := by
  rw [Gathering.addValue, Gathering.number, Value.toNumber?_of_whole? h]
  rfl

/-- A double remains one when a number is added. -/
theorem RunningSum.exists_rounded_add (x : Float) (v : Value) : ∃ y, (rounded x).add v = rounded y := by
  cases v <;> exact ⟨_, rfl⟩

namespace Aggregate

variable {a : Aggregate} {ctx : Context} {arg : Expr} {records : List Record}

/-! ### Sums that are doubles -/

/-- A record leaves a sum that is a double at that: it adds a number, or is left out, or is refused. -/
theorem exists_rounded_accumulate {t : Tally} {x : Float} (h : t.gathered = .sum (some (.rounded x))) (record : Record) :
    ∃ y, (a.accumulate ctx record t).1.gathered = .sum (some (.rounded y)) := by
  rw [accumulate]
  cases hgather : a.gather ctx record t.gathered with
  | error error => exact ⟨x, h⟩
  | ok g =>
    rw [h, gather, bind_eq_ok] at hgather
    obtain ⟨v, -, hadd⟩ := hgather
    rw [Gathering.add] at hadd
    split at hadd
    · exact ⟨x, (Except.ok.inj hadd).symm⟩
    · rw [Gathering.addValue, bind_eq_ok] at hadd
      obtain ⟨n, -, hg⟩ := hadd
      obtain ⟨y, hy⟩ := RunningSum.exists_rounded_add x n
      refine ⟨y, (Except.ok.inj hg).symm.trans ?_⟩
      rw [Option.getD_some, hy]

theorem exists_rounded_run {t : Tally} {x : Float} (h : t.gathered = .sum (some (.rounded x))) (records : List Record) :
    ∃ y, (a.run ctx records t).gathered = .sum (some (.rounded y)) := by
  induction records generalizing t x with
  | nil => exact ⟨x, h⟩
  | cons record records ih =>
    obtain ⟨y, hy⟩ := @exists_rounded_accumulate a ctx t x h record
    exact ih hy

/-! ### Sums of integers -/

/-- An expression counts as an integer in a record, or is NULL there. -/
def IsWholeOrNull (ctx : Context) (arg : Expr) (record : Record) : Prop :=
  arg.eval ctx record = .ok .null ∨ ∃ v i, arg.eval ctx record = .ok v ∧ v.whole? = some i

/-- The integer that an expression counts as in a record, if it counts as one. -/
def wholeIn? (ctx : Context) (arg : Expr) (record : Record) : Option Int64 :=
  match arg.eval ctx record with
  | .ok v => v.whole?
  | .error _ => none

/-- The integers that an expression counts as in some records. -/
def wholesIn (ctx : Context) (arg : Expr) (records : List Record) : List Int64 :=
  records.filterMap (wholeIn? ctx arg)

/-- The sum of an expression. -/
def sumOf (arg : Expr) : Aggregate :=
  ofOne .sum arg (.sum none)

theorem gathered_wholes (hrecords : ∀ record ∈ records, IsWholeOrNull ctx arg record) :
    ((sumOf arg).run ctx records (sumOf arg).begin).gathered = .sum ((wholesIn ctx arg records).foldl sumStep none) := by
  refine gathered_run_values rfl (fun record hmem => ?_) rfl
  obtain hnull | ⟨v, i, hv, hi⟩ := hrecords record hmem
  · exact .inl ⟨hnull, by rw [wholeIn?, hnull]; rfl⟩
  · exact .inr ⟨v, i, hv, Value.isNull_of_whole? hi, by rw [wholeIn?, hv]; exact hi,
      fun separator s => addValue_of_whole? hi .sum separator s⟩

/-- There is something to add unless the expression is NULL everywhere. -/
theorem wholesIn_eq_nil_iff (hrecords : ∀ record ∈ records, IsWholeOrNull ctx arg record) :
    wholesIn ctx arg records = [] ↔ ∀ record ∈ records, arg.eval ctx record = .ok .null := by
  rw [wholesIn, List.filterMap_eq_nil_iff]
  refine forall₂_congr fun record hmem => ?_
  obtain hnull | ⟨v, i, hv, hi⟩ := hrecords record hmem
  · rw [wholeIn?, hnull]
    exact iff_of_true rfl rfl
  · rw [wholeIn?, hv]
    refine iff_of_false (fun h => ?_) fun h => ?_
    · cases hi.symm.trans h
    · cases Except.ok.inj h
      cases hi

theorem result_sum_of_null (hnull : ∀ record ∈ records, arg.eval ctx record = .ok .null) :
    (sumOf arg).resultOver ctx records = .null := by
  have hrecords : ∀ record ∈ records, IsWholeOrNull ctx arg record := fun record hmem => .inl (hnull record hmem)
  rw [resultOver, Tally.result, gathered_wholes hrecords, (wholesIn_eq_nil_iff hrecords).2 hnull]
  rfl

theorem result_sum_of_staysWithin (hrecords : ∀ record ∈ records, IsWholeOrNull ctx arg record)
    (hpresent : ∃ record ∈ records, arg.eval ctx record ≠ .ok .null) (hwithin : StaysWithin 0 (wholesIn ctx arg records)) :
    ∃ k : Int64, (sumOf arg).resultOver ctx records = .integer k ∧
      k.toInt = ((wholesIn ctx arg records).map Int64.toInt).sum := by
  have hnil : wholesIn ctx arg records ≠ [] := by
    rw [ne_eq, wholesIn_eq_nil_iff hrecords]
    simpa using hpresent
  obtain ⟨k, hadd, hk⟩ := @RunningSum.addAll_of_staysWithin 0 _ hwithin
  refine ⟨k, ?_, by simpa using hk⟩
  rw [resultOver, Tally.result, gathered_wholes hrecords, foldl_sumStep, if_neg hnil, hadd]
  rfl

/-- Once a running total has left 64 bits, the sum is a double, whatever records come later. -/
theorem result_sum_of_not_staysWithin (hrecords : ∀ record ∈ records, IsWholeOrNull ctx arg record)
    (hleft : ¬StaysWithin 0 (wholesIn ctx arg records)) (later : List Record) :
    ∃ x, (sumOf arg).resultOver ctx (records ++ later) = .float x := by
  have hnil : wholesIn ctx arg records ≠ [] := by
    intro hnil
    rw [hnil, staysWithin_nil] at hleft
    exact hleft (by decide)
  obtain ⟨x, hadd⟩ := @RunningSum.addAll_of_not_staysWithin 0 _ hleft
  have hgathered : ((sumOf arg).run ctx records (sumOf arg).begin).gathered = .sum (some (.rounded x)) := by
    rw [gathered_wholes hrecords, foldl_sumStep, if_neg hnil, hadd]
  obtain ⟨y, hy⟩ := @exists_rounded_run (sumOf arg) ctx _ x hgathered later
  refine ⟨y, ?_⟩
  rw [resultOver, run_append, Tally.result, hy]
  rfl

/-- **A sum of integers is exact for as long as its running totals fit into 64 bits, and a double for good from the first
one on that does not.** It is NULL for as long as its argument is. -/
theorem result_sum_steps (hrecords : ∀ record ∈ records, IsWholeOrNull ctx arg record) :
    ∃ a, ofExpr (.call .sum [arg]) = .ok a ∧ ∀ part, part <+: records →
      (StaysWithin 0 (wholesIn ctx arg part) →
        ((∀ record ∈ part, arg.eval ctx record = .ok .null) → a.resultOver ctx part = .null) ∧
        ((∃ record ∈ part, arg.eval ctx record ≠ .ok .null) → ∃ k : Int64, a.resultOver ctx part = .integer k ∧
          k.toInt = ((wholesIn ctx arg part).map Int64.toInt).sum)) ∧
      (¬StaysWithin 0 (wholesIn ctx arg part) → ∀ later, ∃ x, a.resultOver ctx (part ++ later) = .float x) := by
  refine ⟨sumOf arg, rfl, fun part hpart => ?_⟩
  have hrecords' : ∀ record ∈ part, IsWholeOrNull ctx arg record := fun record hmem =>
    hrecords record (hpart.subset hmem)
  refine ⟨fun hwithin => ⟨result_sum_of_null, fun hpresent => ?_⟩, result_sum_of_not_staysWithin hrecords'⟩
  exact result_sum_of_staysWithin hrecords' hpresent hwithin

/-- Values that count as 1, 7, nothing and the greatest integer, with which the running total leaves 64 bits. -/
def wholes : List Value :=
  [.boolean true, .text " 7 ", .null, .integer Int64.maxValue]

theorem result_sum_steps_wholes :
    (∀ record ∈ recordsOf wholes, IsWholeOrNull default (.field "x") record) ∧
      recordsOf (wholes.take 3) <+: recordsOf wholes ∧
      sumOfX.resultOver default (recordsOf (wholes.take 3)) = .integer 8 ∧
      ∃ x, sumOfX.resultOver default (recordsOf (wholes ++ [.integer (-1), .integer Int64.minValue])) = .float x := by
  have hrecords : ∀ record ∈ recordsOf wholes, IsWholeOrNull default (.field "x") record := by
    simp only [recordsOf, wholes, List.map_cons, List.map_nil, List.forall_mem_cons]
    exact ⟨.inr ⟨_, 1, rfl, rfl⟩, .inr ⟨_, 7, rfl, rfl⟩, .inl rfl, .inr ⟨_, _, rfl, rfl⟩, nofun⟩
  have hprefix : recordsOf (wholes.take 3) <+: recordsOf wholes := (List.take_prefix 3 wholes).map _
  obtain ⟨a, ha, hsteps⟩ := result_sum_steps hrecords
  cases ha
  obtain ⟨hexact, -⟩ := hsteps _ hprefix
  obtain ⟨-, hleft⟩ := hsteps _ (List.prefix_refl _)
  refine ⟨hrecords, hprefix, ?_, ?_⟩
  · -- the running totals are 1 and 8
    have hwithin : StaysWithin 0 (wholesIn default (.field "x") (recordsOf (wholes.take 3))) := by
      show StaysWithin 0 [1, 7]
      simp only [staysWithin_cons, staysWithin_nil]
      decide
    obtain ⟨k, hk, htotal⟩ := (hexact hwithin).2 ⟨_, List.mem_cons_self, nofun⟩
    have hk8 : k = 8 := Int64.toInt_inj.1 (htotal.trans rfl)
    rw [← hk8]
    exact hk
  · -- the third running total is too large
    have hnot : ¬StaysWithin 0 (wholesIn default (.field "x") (recordsOf wholes)) := by
      show ¬StaysWithin 0 [1, 7, Int64.maxValue]
      simp only [staysWithin_cons, staysWithin_nil]
      decide
    exact hleft hnot [[("x", .integer (-1))], [("x", .integer Int64.minValue)]]

end Aggregate

end SqlFormula
