import SqlFormula.Value.Logic

/-!
# Laws of the logic with three values

The connectives are associative, and a condition is kept when it is made a value. The disjunction of many conditions is
known by which conditions are among them, so their order and their repetitions do not matter.

## Main definitions

- `anyOf?` — the disjunction of some conditions

## Main statements

- `conj_assoc`, `disj_assoc` — the connectives are associative
- `anyOf?_congr` — a disjunction depends only on which conditions are in it
-/

namespace SqlFormula

/-! ### Conditions as values -/

namespace Value

@[simp]
theorem truth?_ofTruth (truth : Option Bool) : (ofTruth truth).truth? = truth := by
  cases truth <;> rfl

theorem ofTruth_injective : Function.Injective ofTruth :=
  Function.LeftInverse.injective truth?_ofTruth

@[simp]
theorem invert_ofTruth (truth : Option Bool) : (ofTruth truth).invert = ofTruth (invert? truth) := by
  rw [invert, truth?_ofTruth]

end Value

/-! ### Two conditions -/

theorem conj_assoc (a b c : Option Bool) : conj (conj a b) c = conj a (conj b c) := by
  rcases a with _ | _ | _ <;> rcases b with _ | _ | _ <;> rcases c with _ | _ | _ <;> rfl

theorem disj_assoc (a b c : Option Bool) : disj (disj a b) c = disj a (disj b c) := by
  rcases a with _ | _ | _ <;> rcases b with _ | _ | _ <;> rcases c with _ | _ | _ <;> rfl

/-- A conjunction is false if one of its sides is. -/
theorem conj_eq_false_iff {a b : Option Bool} : conj a b = some false ↔ a = some false ∨ b = some false := by
  rcases a with _ | _ | _ <;> rcases b with _ | _ | _ <;> decide

theorem disj_eq_true_iff {a b : Option Bool} : disj a b = some true ↔ a = some true ∨ b = some true := by
  rcases a with _ | _ | _ <;> rcases b with _ | _ | _ <;> decide

theorem disj_eq_false_iff {a b : Option Bool} : disj a b = some false ↔ a = some false ∧ b = some false := by
  rcases a with _ | _ | _ <;> rcases b with _ | _ | _ <;> decide

/-! ### Many conditions -/

/-- Whether one of some conditions holds; none of no conditions does. -/
def anyOf? (truths : List (Option Bool)) : Option Bool :=
  truths.foldr disj (some false)

variable {truths others : List (Option Bool)}

theorem anyOf?_cons (truth : Option Bool) (truths : List (Option Bool)) :
    anyOf? (truth :: truths) = disj truth (anyOf? truths) :=
  rfl

theorem anyOf?_eq_true_iff : anyOf? truths = some true ↔ some true ∈ truths := by
  induction truths with
  | nil => simp [anyOf?]
  | cons truth truths ih => rw [anyOf?_cons, disj_eq_true_iff, ih, List.mem_cons, eq_comm]

theorem anyOf?_eq_false_iff : anyOf? truths = some false ↔ ∀ truth ∈ truths, truth = some false := by
  induction truths with
  | nil => simp [anyOf?]
  | cons truth truths ih => rw [anyOf?_cons, disj_eq_false_iff, ih, List.forall_mem_cons]

theorem anyOf?_eq_none_iff : anyOf? truths = none ↔ some true ∉ truths ∧ ∃ truth ∈ truths, truth ≠ some false := by
  have hfalse : (∃ truth ∈ truths, truth ≠ some false) ↔ anyOf? truths ≠ some false := by
    simp [anyOf?_eq_false_iff]
  rw [← anyOf?_eq_true_iff, hfalse]
  rcases anyOf? truths with _ | _ | _ <;> decide

/-- Neither the order of conditions nor their repetition changes whether one of them holds. -/
theorem anyOf?_congr (h : ∀ truth, truth ∈ truths ↔ truth ∈ others) : anyOf? truths = anyOf? others := by
  have hfalse : anyOf? truths = some false ↔ anyOf? others = some false := by
    simp only [anyOf?_eq_false_iff, h]
  have htrue : anyOf? truths = some true ↔ anyOf? others = some true := by
    simp only [anyOf?_eq_true_iff, h]
  apply Option.ext
  intro b
  cases b with
  | false => exact hfalse
  | true => exact htrue

end SqlFormula
