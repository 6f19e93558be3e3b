import SqlFormula.Eval.TypeFunctions
import SqlFormula.Proofs.Outcome
import SqlFormula.Proofs.Value.Whole

/-!
# Casts

A cast gives NULL for NULL and else a value of its storage class, and casting that value once more changes nothing. Integers
come back from their texts, and texts from their bytes.

## Main definitions

- `Affinity.Holds` — the values of a storage class

## Main statements

- `Cast.convert?_settles` — what a conversion gives belongs to the class and is converted to itself
- `Text.ofBytes?_eq_some_iff` — reading bytes as UTF-8 undoes writing them
- `castTo_settles` — the same of casts, with the ways back
-/

namespace SqlFormula

/-- The values of a storage class. Both kinds of numbers are numeric. -/
inductive Affinity.Holds : Affinity → Value → Prop
  | integer (i : Int64) : Holds .integer (.integer i)
  | real (x : Float) : Holds .real (.float x)
  | numericInteger (i : Int64) : Holds .numeric (.integer i)
  | numericFloat (x : Float) : Holds .numeric (.float x)
  | text (s : String) : Holds .text (.text s)
  | blob (bytes : List UInt8) : Holds .blob (.blob bytes)
  | boolean (b : Bool) : Holds .boolean (.boolean b)
  | dateTime (t : Instant) : Holds .dateTime (.dateTime t)

theorem Affinity.Holds.isNull_eq_false {a : Affinity} {v : Value} (h : a.Holds v) : v.isNull = false := by
  cases h <;> rfl

theorem Text.ofBytes?_eq_some_iff {bytes : List UInt8} {s : String} :
    Text.ofBytes? bytes = some s ↔ Text.bytesOf s = bytes := by
  rw [Text.ofBytes?, Text.bytesOf, String.fromUTF8?]
  constructor
  · intro h
    split at h
    · rw [← Option.some.inj h]
      exact List.toList_toArray
    · cases h
  · rintro rfl
    exact dif_pos s.isValidUTF8

namespace Cast

variable {v w : Value} {x : Float}

/-! ### Numbers -/

theorem exists_integer_of_integerOf? (h : integerOf? x = some w) : ∃ i, w = .integer i := by
  obtain ⟨i, -, rfl⟩ := Option.map_eq_some_iff.1 h
  exact ⟨i, rfl⟩

/-- A double that is not narrowed to an integer stays the same double. -/
theorem narrow_cases (x : Float) : (∃ i, narrow x = .integer i) ∨ narrow x = .float x := by
  unfold narrow
  split
  · cases h : integerOf? x with
    | none => exact .inr rfl
    | some w => exact .inl (exists_integer_of_integerOf? h)
  · exact .inr rfl

/-- A text is converted through the number that it stands for: an integer is left as it is. -/
theorem of_numberText {s : String} {f : Float → Option Value}
    (h : (match parseNumber? s with
      | some (.float x) => f x
      | other => other) = some w) : (∃ i, w = .integer i) ∨ ∃ x, f x = some w := by
  split at h
  · exact .inr ⟨_, h⟩
  · next hfloat =>
    obtain hi | ⟨x, rfl⟩ := parseNumber?_cases h
    · exact .inl hi
    · exact absurd h (hfloat x)

theorem exists_integer_of_toInteger? (h : toInteger? v = some w) : ∃ i, w = .integer i := by
  have hread {s : String}
      (hs : (match parseNumber? s with
        | some (.float x) => integerOf? x
        | other => other) = some w) : ∃ i, w = .integer i := by
    obtain hi | ⟨x, hx⟩ := of_numberText hs
    · exact hi
    · exact exists_integer_of_integerOf? hx
  cases v with
  | integer | boolean | dateTime => exact ⟨_, (Option.some.inj h).symm⟩
  | float x => exact exists_integer_of_integerOf? h
  | text | blob => exact hread h
  | _ => cases h

theorem exists_float_of_toFloat? (h : toFloat? v = some w) : ∃ x, w = .float x := by
  cases v with
  | integer | float | boolean | dateTime => exact ⟨_, (Option.some.inj h).symm⟩
  | text | blob =>
    obtain ⟨x, -, hx⟩ := Option.map_eq_some_iff.1 h
    exact ⟨x, hx.symm⟩
  | _ => cases h

theorem toNumeric?_cases (h : toNumeric? v = some w) :
    (∃ i, w = .integer i) ∨ ∃ x, w = .float x ∧ narrow x = .float x := by
  have hnarrow {x : Float} (hx : some (narrow x) = some w) :
      (∃ i, w = .integer i) ∨ ∃ x, w = .float x ∧ narrow x = .float x := by
    obtain rfl := Option.some.inj hx
    obtain hi | hfloat := narrow_cases x
    · exact .inl hi
    · exact .inr ⟨x, hfloat, hfloat⟩
  have hread {s : String}
      (hs : (match parseNumber? s with
        | some (.float x) => some (narrow x)
        | other => other) = some w) : (∃ i, w = .integer i) ∨ ∃ x, w = .float x ∧ narrow x = .float x := by
    obtain hi | ⟨x, hx⟩ := of_numberText hs
    · exact .inl hi
    · exact hnarrow hx
  cases v with
  | integer | boolean | dateTime => exact .inl ⟨_, (Option.some.inj h).symm⟩
  | float x => exact hnarrow h
  | text | blob => exact hread h
  | _ => cases h

/-! ### Texts, truth values and instants -/

theorem exists_text_of_toText? (h : toText? v = some w) : ∃ s, w = .text s := by
  cases v with
  | blob =>
    obtain ⟨s, -, hs⟩ := Option.map_eq_some_iff.1 h
    exact ⟨s, hs.symm⟩
  | _ => exact ⟨_, (Option.some.inj h).symm⟩

theorem exists_toBlob (v : Value) : ∃ bytes, toBlob v = .blob bytes := by
  cases v <;> exact ⟨_, rfl⟩

theorem exists_boolean_of_toBoolean? (h : toBoolean? v = some w) : ∃ b, w = .boolean b := by
  unfold toBoolean? at h
  split at h
  all_goals
    obtain ⟨b, -, hb⟩ := Option.map_eq_some_iff.1 h
    exact ⟨b, hb.symm⟩

theorem exists_dateTime_of_toDateTime? (h : toDateTime? v = some w) : ∃ t, w = .dateTime t := by
  cases v with
  | dateTime t => exact ⟨t, (Option.some.inj h).symm⟩
  | integer | float | text =>
    obtain ⟨t, -, ht⟩ := Option.map_eq_some_iff.1 h
    exact ⟨t, ht.symm⟩
  | _ => cases h

/-! ### Conversions -/

/-- **What a conversion gives belongs to the class, and is converted to itself.** -/
theorem convert?_settles {target : Affinity} (h : convert? target v = some w) :
    target.Holds w ∧ convert? target w = some w := by
  cases target with
  | integer =>
    obtain ⟨i, rfl⟩ := exists_integer_of_toInteger? h
    exact ⟨.integer i, rfl⟩
  | real =>
    obtain ⟨x, rfl⟩ := exists_float_of_toFloat? h
    exact ⟨.real x, rfl⟩
  | text =>
    obtain ⟨s, rfl⟩ := exists_text_of_toText? h
    exact ⟨.text s, rfl⟩
  | blob =>
    obtain ⟨bytes, hbytes⟩ := exists_toBlob v
    obtain rfl := hbytes.symm.trans (Option.some.inj h)
    exact ⟨.blob bytes, rfl⟩
  | numeric =>
    obtain ⟨i, rfl⟩ | ⟨x, rfl, hx⟩ := toNumeric?_cases h
    · exact ⟨.numericInteger i, rfl⟩
    · exact ⟨.numericFloat x, congrArg some hx⟩
  | boolean =>
    obtain ⟨b, rfl⟩ := exists_boolean_of_toBoolean? h
    exact ⟨.boolean b, rfl⟩
  | dateTime =>
    obtain ⟨t, rfl⟩ := exists_dateTime_of_toDateTime? h
    exact ⟨.dateTime t, rfl⟩

end Cast

/-! ### Casts -/

section

variable {target : TypeName} {v w : Value}

theorem castTo_of_convert? (hv : v.isNull = false) (h : Cast.convert? target.affinity v = some w) :
    castTo target v = .ok w := by
  rw [castTo, hv, h]
  rfl

theorem eq_null_of_isNull (h : v.isNull) : v = .null := by
  cases v with
  | null => rfl
  | _ => cases h

/-- A cast that succeeds leaves NULL as it is, or converts a value to its class. -/
theorem castTo_cases (h : castTo target v = .ok w) :
    (v = .null ∧ w = .null) ∨ (v.isNull = false ∧ Cast.convert? target.affinity v = some w) := by
  unfold castTo at h
  split at h
  · next hnull => exact .inl ⟨eq_null_of_isNull hnull, (Except.ok.inj h).symm⟩
  · next hv =>
    split at h
    · next hw => exact .inr ⟨Bool.not_eq_true _ ▸ hv, Except.ok.inj h ▸ hw⟩
    · cases h

theorem castTo_again (h : castTo target v = .ok w) :
    (w = .null ↔ v = .null) ∧ (w = .null ∨ target.affinity.Holds w) ∧ castTo target w = .ok w := by
  obtain ⟨rfl, rfl⟩ | ⟨hv, hconvert⟩ := castTo_cases h
  · exact ⟨Iff.rfl, .inl rfl, rfl⟩
  · obtain ⟨hholds, hagain⟩ := Cast.convert?_settles hconvert
    have hw := hholds.isNull_eq_false
    refine ⟨iff_of_false ?_ ?_, .inr hholds, castTo_of_convert? hw hagain⟩
    · rintro rfl
      cases hw
    · rintro rfl
      cases hv

/-! ### There and back -/

variable {text integer blob : TypeName}

/-- An integer is read back from its text. -/
theorem castTo_text_integer (htext : text.affinity = .text) (hinteger : integer.affinity = .integer) (i : Int64) :
    castTo text (.integer i) >>= castTo integer = .ok (.integer i) := by
  have hwrite : castTo text (.integer i) = .ok (.text (toString i.toInt)) := by
    apply castTo_of_convert? rfl
    rw [htext]
    rfl
  have hread : castTo integer (.text (toString i.toInt)) = .ok (.integer i) := by
    apply castTo_of_convert? rfl
    rw [hinteger, Cast.convert?, Cast.toInteger?, Value.display, parseNumber?_toString]
  exact bind_eq_ok.2 ⟨_, hwrite, hread⟩

/-- A text is read back from its bytes. -/
theorem castTo_blob_text (hblob : blob.affinity = .blob) (htext : text.affinity = .text) (s : String) :
    castTo blob (.text s) >>= castTo text = .ok (.text s) := by
  have hwrite : castTo blob (.text s) = .ok (.blob (Text.bytesOf s)) := by
    apply castTo_of_convert? rfl
    rw [hblob]
    rfl
  have hread : castTo text (.blob (Text.bytesOf s)) = .ok (.text s) := by
    apply castTo_of_convert? rfl
    rw [htext, Cast.convert?, Cast.toText?, Text.ofBytes?_eq_some_iff.2 rfl, Option.map_some]
  exact bind_eq_ok.2 ⟨_, hwrite, hread⟩

/-- **A cast gives NULL or a value of its class, and changes nothing when it is repeated. Integers survive as texts, and
texts as blobs.** -/
theorem castTo_settles :
    (castTo target v = .ok w →
      (w = .null ↔ v = .null) ∧ (w = .null ∨ target.affinity.Holds w) ∧ castTo target w = .ok w) ∧
    ∀ text integer blob : TypeName, text.affinity = .text → integer.affinity = .integer → blob.affinity = .blob →
      (∀ i, castTo text (.integer i) >>= castTo integer = .ok (.integer i)) ∧
      ∀ s, castTo blob (.text s) >>= castTo text = .ok (.text s) := by
  refine ⟨castTo_again, ?_⟩
  intro text integer blob htext hinteger hblob
  exact ⟨castTo_text_integer htext hinteger, castTo_blob_text hblob htext⟩

theorem castTo_settles_thousand :
    castTo (.declare "DECIMAL" []) (.text " 1e3 ") = .ok (.integer 1000) ∧
      castTo (.declare "DECIMAL" []) (.integer 1000) = .ok (.integer 1000) ∧
      castTo (.declare "VARCHAR" [9]) (.integer Int64.minValue) >>= castTo (.declare "BIGINT" []) =
        .ok (.integer Int64.minValue) := by
  have hthousand : castTo (.declare "DECIMAL" []) (.text " 1e3 ") = .ok (.integer 1000) := by
    rfl
  obtain ⟨hsettles, hback⟩ := @castTo_settles (.declare "DECIMAL" []) (.text " 1e3 ") (.integer 1000)
  obtain ⟨-, -, hagain⟩ := hsettles hthousand
  obtain ⟨hinteger, -⟩ := hback (.declare "VARCHAR" [9]) (.declare "BIGINT" []) (.declare "BLOB" []) (by decide +kernel)
    (by decide +kernel) (by decide +kernel)
  exact ⟨hthousand, hagain, hinteger _⟩

end

end SqlFormula
