import Mathlib
import SqlFormula.Value.Order

/-!
# The order of doubles

Doubles that are no NaN stand in one line, in which zeros of both signs are at the same place. A NaN has no place and is
equal to everything.

## Main definitions

- `floatPlace?` — the place of a double in the line

## Main statements

- `compareFloats_eq` — two doubles are compared by their places
- `compareFloats_swap` — the order from the other side is the reverse
-/

namespace SqlFormula

open Float.Model (UnpackedFloat)

/-- The order of triples, the first difference deciding. -/
def compareTriples (a b : Int × Int × Int) : Ordering :=
  (compare a.1 b.1).then ((compare a.2.1 b.2.1).then (compare a.2.2 b.2.2))

/-- The place of an unpacked double: its sign and kind, then its exponent and its mantissa, which count downwards
below zero. -/
def unpackedPlace? : UnpackedFloat → Option (Int × Int × Int)
  | .notANumber => none
  | .infinity .negative => some (-2, 0, 0)
  | .finite .negative m e _ => some (-1, -e, -m)
  | .zero _ => some (0, 0, 0)
  | .finite .positive m e _ => some (1, e, m)
  | .infinity .positive => some (2, 0, 0)

def floatPlace? (x : Float) : Option (Int × Int × Int) :=
  unpackedPlace? x.toModel.unpack

theorem compareTriples_swap (a b : Int × Int × Int) : compareTriples b a = (compareTriples a b).swap := by
  have hswap (i j : Int) : compare j i = (compare i j).swap := Std.OrientedCmp.eq_swap
  rw [compareTriples, compareTriples, Ordering.swap_then, Ordering.swap_then, hswap a.1, hswap a.2.1, hswap a.2.2]

theorem compare_neg_neg {α : Type} [AddCommGroup α] [LinearOrder α] [IsOrderedAddMonoid α] (a b : α) :
    compare (-a) (-b) = (compare a b).swap := by
  have hswap : compare b a = (compare a b).swap := Std.OrientedCmp.eq_swap
  rw [← hswap]
  obtain hlt | rfl | hgt := lt_trichotomy a b
  · rw [compare_gt_iff_gt.2 (neg_lt_neg hlt), compare_gt_iff_gt.2 hlt]
  · rw [compare_eq_iff_eq.2 rfl, compare_eq_iff_eq.2 rfl]
  · rw [compare_lt_iff_lt.2 (neg_lt_neg hgt), compare_lt_iff_lt.2 hgt]

theorem compare_natCast (m n : Nat) : compare (m : Int) n = compare m n := by
  simp only [Int.compare_eq_ite_lt, Nat.compare_eq_ite_lt, Int.ofNat_lt]

theorem compare_intCast (i j : Int) : compare (i : ℚ) j = compare i j := by
  rw [← cmp_eq_compare, ← cmp_eq_compare]
  exact Int.cast_strictMono.cmp_map_eq i j

theorem compare_toInt (i j : Int64) : compare i.toInt j.toInt = compare i j := by
  show compareOfLessAndEq _ _ = compareOfLessAndEq _ _
  simp only [compareOfLessAndEq, Int64.lt_iff_toInt_lt, ← Int64.toInt_inj]

theorem unpackedCompare_eq (a b : UnpackedFloat) :
    a.compare b = (unpackedPlace? a).bind fun i => (unpackedPlace? b).map (compareTriples i) := by
  rcases a with s | _ | s | ⟨s, m, e, hm⟩ <;> rcases b with t | _ | t | ⟨t, n, f, hn⟩ <;> try cases s
  all_goals try cases t
  all_goals try rfl
  -- two finite doubles below zero, and two above
  · show some ((compare e f).then (compare m n)).swap = some ((compare (-e) (-f)).then (compare (-(m : Int)) (-n)))
    rw [compare_neg_neg, compare_neg_neg, compare_natCast, Ordering.swap_then]
  · show some ((compare e f).then (compare m n)) = some ((compare e f).then (compare (m : Int) n))
    rw [compare_natCast]

/-- Two doubles are compared by their places. -/
theorem compareFloats_eq (x y : Float) :
    compareFloats x y = ((floatPlace? x).bind fun i => (floatPlace? y).map (compareTriples i)).getD .eq := by
  have hlt (x y : Float) :
      x < y ↔ ((floatPlace? x).bind fun i => (floatPlace? y).map (compareTriples i)) = some .lt := by
    have hmodel : x < y ↔ x.toModel < y.toModel := decide_eq_true_iff
    rw [hmodel]
    show (x.toModel.unpack.compare y.toModel.unpack == some .lt) = true ↔ _
    rw [unpackedCompare_eq, beq_iff_eq]
    rfl
  simp only [compareFloats, hlt]
  cases floatPlace? x with
  | none => cases floatPlace? y <;> simp
  | some i =>
    cases floatPlace? y with
    | none => simp
    | some j =>
      simp only [Option.bind_some, Option.map_some, Option.some.injEq, Option.getD_some, compareTriples_swap i j]
      cases compareTriples i j <;> rfl

theorem exists_floatPlace? {x : Float} (h : x.isNaN = false) : ∃ p, floatPlace? x = some p := by
  have hunpacked : x.toModel.unpack.isNaN = false := h
  rw [floatPlace?]
  revert hunpacked
  rcases x.toModel.unpack with s | _ | s | ⟨s, m, e, hm⟩ <;> try cases s
  all_goals first
    | exact fun _ => ⟨_, rfl⟩
    | exact nofun

theorem compareFloats_swap (x y : Float) : compareFloats y x = (compareFloats x y).swap := by
  rw [compareFloats_eq, compareFloats_eq]
  cases floatPlace? x with
  | none => cases floatPlace? y <;> rfl
  | some i =>
    cases floatPlace? y with
    | none => rfl
    | some j => exact compareTriples_swap i j

end SqlFormula
