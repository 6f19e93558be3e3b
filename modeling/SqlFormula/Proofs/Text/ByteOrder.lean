import Mathlib
import SqlFormula.Value.Order

/-!
# The order of texts and that of their bytes

UTF-8 keeps the order of characters: texts stand to each other as their bytes do.

## Main statements

- `compareBytes_utf8EncodeChar_of_lt` — a lesser character has lesser bytes, whatever follows
- `compare_eq_compareBytes` — the order of two texts is that of their bytes
-/

namespace SqlFormula

theorem compareBytes_cons {a b : Nat} (ha : a < 256) (hb : b < 256) (l m : List UInt8) :
    compareBytes (UInt8.ofNat a :: l) (UInt8.ofNat b :: m) = (compare a b).then (compareBytes l m) := by
  have hbyte : compare (UInt8.ofNat a) (UInt8.ofNat b) = compare a b := by
    show compareOfLessAndEq _ _ = compareOfLessAndEq _ _
    have hlt : UInt8.ofNat a < UInt8.ofNat b ↔ a < b := by
      rw [UInt8.lt_iff_toNat_lt, UInt8.toNat_ofNat_of_lt' ha, UInt8.toNat_ofNat_of_lt' hb]
    have heq : UInt8.ofNat a = UInt8.ofNat b ↔ a = b := by
      rw [← UInt8.toNat_inj, UInt8.toNat_ofNat_of_lt' ha, UInt8.toNat_ofNat_of_lt' hb]
    simp only [compareOfLessAndEq, hlt, heq]
  rw [compareBytes, List.compareLex_cons_cons, hbyte]
  rfl

theorem compareBytes_append (p l m : List UInt8) : compareBytes (p ++ l) (p ++ m) = compareBytes l m := by
  induction p with
  | nil => rfl
  | cons b p ih =>
    have hself : compare b b = .eq := Std.ReflCmp.compare_self
    rw [← ih, compareBytes, List.cons_append, List.cons_append, List.compareLex_cons_cons, hself]
    rfl

theorem compareBytes_utf8EncodeChar_of_lt {c d : Char} (h : c < d) (l m : List UInt8) :
    compareBytes (String.utf8EncodeChar c ++ l) (String.utf8EncodeChar d ++ m) = .lt := by
  have hlt : c.val.toNat < d.val.toNat := h
  have hd : d.val.toNat < 0x110000 := by
    have hvalid := d.valid
    simp only [UInt32.isValidChar, Nat.isValidChar] at hvalid
    omega
  have hdigits (n : Nat) : n / 4096 = n / 64 / 64 ∧ n / 262144 = n / 4096 / 64 := by omega
  have hthen (o p : Ordering) : o.then p = .lt ↔ o = .lt ∨ (o = .eq ∧ p = .lt) := by
    cases o <;> simp
  rw [String.utf8EncodeChar, String.utf8EncodeChar]
  generalize c.val.toNat = v at *
  generalize d.val.toNat = w at *
  have hdv := hdigits v
  have hdw := hdigits w
  have htop : v / 262144 / 8 = 0 ∧ w / 262144 / 8 = 0 := by omega
  -- a character with fewer bytes has a lesser first byte
  split_ifs <;> simp only [List.cons_append, List.nil_append] <;>
    (repeat rw [compareBytes_cons (by omega) (by omega)]) <;>
    simp only [hthen, Nat.compare_eq_lt, Nat.compare_eq_eq] <;> omega

theorem compareBytes_flatMap_of_lt {cs ds : List Char} (h : cs < ds) :
    compareBytes (cs.flatMap String.utf8EncodeChar) (ds.flatMap String.utf8EncodeChar) = .lt := by
  induction h with
  | @nil d ds =>
    rw [List.flatMap_cons]
    cases hd : String.utf8EncodeChar d with
    | nil => simp at hd
    | cons b bs => rfl
  | rel hcd => exact compareBytes_utf8EncodeChar_of_lt hcd _ _
  | cons _ ih => rw [List.flatMap_cons, List.flatMap_cons, compareBytes_append, ih]

namespace Text

theorem bytesOf_eq_flatMap (s : String) : bytesOf s = s.toList.flatMap String.utf8EncodeChar := by
  have hbytes : s.toByteArray = s.toList.utf8Encode := by simp
  rw [bytesOf, String.toUTF8_eq_toByteArray, hbytes, List.utf8Encode]
  simp

theorem compareBytes_of_lt {s t : String} (h : s < t) : compareBytes (bytesOf s) (bytesOf t) = .lt := by
  rw [bytesOf_eq_flatMap, bytesOf_eq_flatMap]
  exact compareBytes_flatMap_of_lt h

/-- The order of two texts is that of their bytes. -/
theorem compare_eq_compareBytes (s t : String) : compare s t = compareBytes (bytesOf s) (bytesOf t) := by
  show compareOfLessAndEq s t = compare (bytesOf s) (bytesOf t)
  rw [compareOfLessAndEq]
  by_cases hlt : s < t
  · rw [if_pos hlt]
    exact (compareBytes_of_lt hlt).symm
  · rw [if_neg hlt]
    by_cases heq : s = t
    · subst heq
      rw [if_pos rfl]
      exact Std.ReflCmp.compare_self.symm
    · have hgt : t < s := lt_of_le_of_ne (not_lt.1 hlt) (Ne.symm heq)
      have hbytes : compare (bytesOf t) (bytesOf s) = .lt := compareBytes_of_lt hgt
      rw [if_neg heq]
      exact (Std.OrientedCmp.gt_of_lt hbytes).symm

end Text

end SqlFormula
