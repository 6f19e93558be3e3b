import SqlFormula.Proofs.Aggregate.RowOrder
import SqlFormula.Proofs.Outcome

/-!
# Records that an aggregate call refuses

A call fails on a record if its argument has no value there, if a value that it adds up is no number, or if the separator,
which is evaluated from the second text on, has no value. What was gathered before stays as it is, so neither the result at
this point nor any later one shows the record. But it is counted as a row.

## Main definitions

- `Aggregate.Refuses` — the three ways in which a call fails on a record
- `Aggregate.taken` — the records that a call takes in without an error

## Main statements

- `Aggregate.accumulate_eq_error_iff` — a call fails on a record exactly in these three ways
- `Aggregate.rows_run` — every record is a row
- `Aggregate.accumulate_of_error` — what a call that fails leaves behind
-/

namespace SqlFormula

/-! ### Values that cannot be added -/

/-- Whether numbers are gathered. -/
def Gathering.addsNumbers : Gathering → Bool
  | .sum _ | .total _ | .average _ _ => true
  | .count _ | .extreme _ | .joined _ => false

section

variable {f : Builtin} {v : Value} {error : EvalError} {g : Gathering} {separator : Unit → Except EvalError String}

theorem number_eq_error_iff :
    Gathering.number f v = .error error ↔ v.toNumber? = none ∧ error = f.argumentError 0 "number" v := by
  rw [Gathering.number]
  cases v.toNumber? <;> simp [eq_comm]

theorem join_eq_error_iff {part : String} {s : Option String} :
    Gathering.join separator part s = .error error ↔ s.isSome ∧ separator () = .error error := by
  cases s with
  | none => exact ⟨nofun, nofun⟩
  | some s =>
    rw [Gathering.join, bind_eq_error]
    simp [pure, Except.pure]

/-- A value is refused if it is no number where numbers are added, and for the error of the separator where there is text
before it. -/
theorem addValue_eq_error_iff :
    g.addValue f separator v = .error error ↔
      g.addsNumbers = true ∧ v.toNumber? = none ∧ error = f.argumentError 0 "number" v ∨
        (∃ s, g = .joined (some s)) ∧ separator () = .error error := by
  cases g with
  | count n => simp [Gathering.addValue, Gathering.addsNumbers]
  | sum s | total x | average x n =>
    rw [Gathering.addValue, bind_eq_error, number_eq_error_iff]
    simp [Gathering.addsNumbers, pure, Except.pure]
  | extreme best => cases best <;> simp [Gathering.addValue, Gathering.addsNumbers]
  | joined s =>
    rw [Gathering.addValue, bind_eq_error, join_eq_error_iff]
    cases s <;> simp [Gathering.addsNumbers, pure, Except.pure]

theorem add_eq_error_iff :
    g.add f separator v = .error error ↔ v.isNull = false ∧ g.addValue f separator v = .error error := by
  rw [Gathering.add]
  cases v.isNull <;> simp

end

namespace Aggregate

variable {a : Aggregate} {ctx : Context} {records : List Record} {record : Record} {t u : Tally} {error : EvalError}

/-- The ways in which a call fails on a record, after something has been gathered. -/
inductive Refuses (a : Aggregate) (ctx : Context) (record : Record) (g : Gathering) : EvalError → Prop
  /-- The argument has no value. -/
  | argument {error : EvalError} (hargument : a.argumentValue ctx record = .error error) : Refuses a ctx record g error
  /-- The argument is no number, but numbers are added. -/
  | number {v : Value} (hv : a.argumentValue ctx record = .ok v) (hpresent : v.isNull = false)
    (hadds : g.addsNumbers = true) (hnumber : v.toNumber? = none) :
    Refuses a ctx record g (a.function.argumentError 0 "number" v)
  /-- The separator has no value, but there is text to separate. -/
  | separator {v : Value} {s : String} {error : EvalError} (hv : a.argumentValue ctx record = .ok v)
    (hpresent : v.isNull = false) (hjoined : g = .joined (some s))
    (hseparator : a.separatorText ctx record = .error error) :
    Refuses a ctx record g error

theorem gather_eq_error_iff {g : Gathering} :
    a.gather ctx record g = .error error ↔ a.Refuses ctx record g error := by
  rw [gather, bind_eq_error]
  simp only [add_eq_error_iff, addValue_eq_error_iff]
  constructor
  · rintro (hargument | ⟨v, hv, hpresent, ⟨hadds, hnumber, rfl⟩ | ⟨⟨s, hs⟩, hseparator⟩⟩)
    · exact .argument hargument
    · exact .number hv hpresent hadds hnumber
    · exact .separator hv hpresent hs hseparator
  · rintro (hargument | ⟨hv, hpresent, hadds, hnumber⟩ | ⟨hv, hpresent, hs, hseparator⟩)
    · exact .inl hargument
    · exact .inr ⟨_, hv, hpresent, .inl ⟨hadds, hnumber, rfl⟩⟩
    · exact .inr ⟨_, hv, hpresent, .inr ⟨⟨_, hs⟩, hseparator⟩⟩

/-- A call that fails counts the row, and leaves alone what has been gathered. -/
theorem accumulate_eq_error_iff :
    a.accumulate ctx record t = (u, some error) ↔
      a.Refuses ctx record t.gathered error ∧ u = ⟨t.rows + 1, t.gathered⟩ := by
  rw [accumulate, ← gather_eq_error_iff]
  cases a.gather ctx record t.gathered with
  | error e => simp [eq_comm, and_comm]
  | ok g => simp

/-- Later records add to what has been gathered, whatever the number of rows. -/
theorem gathered_run_congr (later : List Record) (h : t.gathered = u.gathered) :
    (a.run ctx later t).gathered = (a.run ctx later u).gathered := by
  induction later generalizing t u with
  | nil => exact h
  | cons record later ih => exact ih (accumulate_congr h).1

/-! ### Rows -/

theorem rows_accumulate (record : Record) (t : Tally) : (a.accumulate ctx record t).1.rows = t.rows + 1 := by
  rw [accumulate]
  split <;> rfl

/-- Every record is a row, whether the call takes it in or fails. -/
theorem rows_run (records : List Record) (t : Tally) : (a.run ctx records t).rows = t.rows + records.length := by
  induction records generalizing t with
  | nil => rfl
  | cons record records ih => rw [run_cons, ih, rows_accumulate, List.length_cons, Nat.add_assoc, Nat.add_comm 1]

variable (a ctx) in
/-- The records that the call takes in without an error. -/
def taken : Tally → List Record → List Record
  | _, [] => []
  | t, record :: records =>
    let later := taken (a.accumulate ctx record t).1 records
    if (a.accumulate ctx record t).2.isNone then record :: later else later

theorem taken_append (later : List Record) :
    a.taken ctx t (records ++ later) = a.taken ctx t records ++ a.taken ctx (a.run ctx records t) later := by
  induction records generalizing t with
  | nil => rfl
  | cons record records ih =>
    rw [List.cons_append, taken, taken, ih, run_cons]
    split <;> simp

theorem taken_sublist : (a.taken ctx t records).Sublist records := by
  induction records generalizing t with
  | nil => exact List.Sublist.refl []
  | cons record records ih =>
    rw [taken]
    split
    · exact ih.cons_cons record
    · exact ih.cons record

/-- **A call that fails on a record** fails in one of the three ways. It leaves no trace in the result at this point, nor in
any later one. But it counts the record as a row: there are as many rows as records, which are more than those that are
taken in as soon as the call fails on one. -/
theorem accumulate_of_error (hfails : a.accumulate ctx record (a.run ctx records a.begin) = (u, some error)) :
    a.Refuses ctx record (a.run ctx records a.begin).gathered error ∧
      u.result = a.resultOver ctx records ∧
      (∀ later, (a.run ctx later u).result = a.resultOver ctx (records ++ later)) ∧
      (a.run ctx records a.begin).rows = records.length ∧ u.rows = records.length + 1 ∧
      (a.taken ctx a.begin (records ++ [record])).length < u.rows ∧
      ((a.taken ctx a.begin records).length = (a.run ctx records a.begin).rows ↔ a.taken ctx a.begin records = records) := by
  obtain ⟨hrefuses, rfl⟩ := accumulate_eq_error_iff.1 hfails
  have hrows : (a.run ctx records a.begin).rows = records.length :=
    (rows_run records a.begin).trans (Nat.zero_add records.length)
  have hlength : (a.taken ctx a.begin records).length ≤ records.length := taken_sublist.length_le
  refine ⟨hrefuses, rfl, fun later => ?_, hrows, congrArg (· + 1) hrows, ?_, ?_⟩
  · rw [resultOver, run_append]
    exact congrArg Gathering.result (gathered_run_congr later rfl)
  · have hnone : a.taken ctx (a.run ctx records a.begin) [record] = [] := by
      rw [taken, hfails]
      rfl
    rw [taken_append, hnone, List.append_nil, hrows]
    exact Nat.lt_succ_of_le hlength
  · rw [hrows]
    exact ⟨fun h => taken_sublist.eq_of_length h, congrArg List.length⟩

/-- Texts that are joined with a separator from the record itself. -/
def joinedByField : Aggregate :=
  { function := .groupConcat, argument := some (.field "x"), separator := some (.field "by"), start := .joined none }

/-- A first text, before which no separator is evaluated, a number with a separator, and a text without one. -/
def lacksSeparator : List Record :=
  [[("x", .text "a")], [("by", .text "-"), ("x", .integer 1)], [("x", .text "b")]]

/-- The last of the records is refused, and the next one is joined to the texts before it. -/
theorem accumulate_of_error_joined :
    ofExpr (.call .groupConcat [.field "x", .field "by"]) = .ok joinedByField ∧
      joinedByField.accumulate default [("x", .text "b")]
          (joinedByField.run default (lacksSeparator.take 2) joinedByField.begin) =
        (joinedByField.run default lacksSeparator joinedByField.begin, some (.missingField "by")) ∧
      (joinedByField.run default lacksSeparator joinedByField.begin).result = .text "a-1" ∧
      (joinedByField.run default lacksSeparator joinedByField.begin).rows = 3 ∧
      (joinedByField.run default [[("by", .text "/"), ("x", .text "c")]]
        (joinedByField.run default lacksSeparator joinedByField.begin)).result = .text "a-1/c" := by
  have hfails : joinedByField.accumulate default [("x", .text "b")]
      (joinedByField.run default (lacksSeparator.take 2) joinedByField.begin) =
        (joinedByField.run default lacksSeparator joinedByField.begin, some (.missingField "by")) := by rfl
  obtain ⟨-, hresult, hlater, -, hrows, -⟩ := accumulate_of_error hfails
  exact ⟨rfl, hfails, hresult.trans (by rfl), hrows, (hlater _).trans (by rfl)⟩

/-- A call that fails does not leave everything as it was. -/
theorem rows_of_error_ne :
    ¬∀ (a : Aggregate) (ctx : Context) (records : List Record) (record : Record) (u : Tally) (error : EvalError),
      a.accumulate ctx record (a.run ctx records a.begin) = (u, some error) →
        u.result = a.resultOver ctx records ∧ u.rows = (a.run ctx records a.begin).rows := by
  intro hall
  have hfails : sumOfX.accumulate default [("x", .text "abc")] (sumOfX.run default [] sumOfX.begin) =
      (⟨1, .sum none⟩, some (.argumentType "sum" 1 "number" "text")) := by rfl
  have hrows : 1 = 0 := (hall _ _ _ _ _ _ hfails).2
  cases hrows

end Aggregate

end SqlFormula
