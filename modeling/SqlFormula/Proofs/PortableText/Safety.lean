import SqlFormula.Proofs.PortableText.Simulation
import SqlFormula.Proofs.Value

/-!
# Reading is safe for every text

The machine that reads a text step by step keeps its place, and comes to an end after a number of steps that is known
from the length of the text. What it comes to is what the readers give, so that the places of errors and the values that
are read are those of the readers.

## Main definitions

- `NestsWithin` — a value that is well formed and nests at most so deep

## Main statements

- `nestsWithin_container` — what readers of arrays and objects give, by induction on how many more may be nested
- `run_start` — a machine stops with what the readers give
- `Value.ofPortableText_safe` — all this for every text
-/

namespace SqlFormula

namespace PortableText

open Reader

/-! ### Values that are read -/

/-- A value is well formed, and its arrays and objects nest at most so deep. -/
def NestsWithin (level : Nat) (v : Value) : Prop :=
  v.WellFormed ∧ v.depth ≤ level

theorem NestsWithin.array {level : Nat} {vs : List Value} (h : ∀ v ∈ vs, NestsWithin level v) :
    NestsWithin (level + 1) (.array vs) :=
  ⟨Value.wellFormed_array.2 fun v hv => (h v hv).1, Value.depth_array_le.2 fun v hv => (h v hv).2⟩

theorem NestsWithin.object {level : Nat} {entries : List (String × Value)} (hsorted : Entries.Sorted entries)
    (h : ∀ e ∈ entries, NestsWithin level e.2) : NestsWithin (level + 1) (.object entries) :=
  ⟨Value.wellFormed_object.2 ⟨hsorted, fun e he => (h e he).1⟩, Value.depth_object_le.2 fun e he => (h e he).2⟩

theorem nestsWithin_of_isScalar {level : Nat} {v : Value} (h : v.IsScalar) : NestsWithin level v := by
  refine ⟨?_, by rw [Value.depth_of_isScalar h]; exact Nat.zero_le level⟩
  cases v with
  | array items => exact h.elim
  | object entries => exact h.elim
  | _ => trivial

theorem isScalar_of_scalarValue? {m : Marker} {word : String} {v : Value} (h : scalarValue? m word = some v) :
    v.IsScalar := by
  cases m with
  | null =>
    rw [scalarValue?, Option.ite_none_right_eq_some] at h
    obtain ⟨-, ⟨⟩⟩ := h
    trivial
  | boolean =>
    rw [scalarValue?] at h
    split at h
    · cases h
      trivial
    · split at h
      · cases h
        trivial
      · cases h
  | text =>
    cases h
    trivial
  | _ =>
    obtain ⟨_, -, rfl⟩ := Option.map_eq_some_iff.1 h
    trivial

section

variable {level : Nat} {inner : Nat → PortableReader (String × Value)}

theorem nestsWithin_scalar {offset : Nat} {m : Marker} {word : String} :
    (scalar offset m word).Ensures fun v _ => NestsWithin level v := by
  rw [scalar]
  split
  · next v hv => exact ensures_pure fun _ => nestsWithin_of_isScalar (isScalar_of_scalarValue? hv)
  · exact ensures_fail _

variable (hinner : ∀ offset, (inner offset).Ensures fun result _ => NestsWithin level result.2)
include hinner

theorem nestsWithin_value : (value inner).Ensures fun result _ => NestsWithin level result.2 := by
  refine ensures_bind fun offset => ensures_bind fun c? => ?_
  cases c? with
  | none => exact ensures_fail _
  | some c =>
    show (valueAfter inner offset c).Ensures _
    rw [valueAfter]
    split
    · exact hinner offset
    · split
      · exact ensures_bind fun _ => ensures_bind fun _ => nestsWithin_scalar.map fun v _ hv => hv
      · exact ensures_fail _

theorem nestsWithin_containerOnly : (containerOnly inner).Ensures fun v _ => NestsWithin level v := by
  refine ensures_bind fun offset => ensures_bind fun c? => ?_
  split
  · exact (hinner offset).map fun _ _ hresult => hresult
  · exact ensures_fail _
  · exact ensures_fail _

theorem nestsWithin_field : (field inner).Ensures fun e _ => NestsWithin level e.2 := by
  refine ensures_bind fun key => ensures_bind fun offset => ensures_bind fun c? => ?_
  cases c? with
  | none => exact ensures_fail _
  | some c =>
    refine Ensures.map (P := fun v _ => NestsWithin level v) ?_ fun v _ hv => hv
    rw [fieldValue]
    split
    · exact nestsWithin_containerOnly hinner
    · split
      · exact ensures_bind fun _ => ensures_bind fun _ => nestsWithin_scalar
      · exact ensures_fail _

/-- A field joins the others in the order of their keys. -/
theorem nestsWithin_anotherField {entries : List (String × Value)} (hsorted : Entries.Sorted entries)
    (hentries : ∀ e ∈ entries, NestsWithin level e.2) :
    (anotherField inner entries).Ensures fun entries _ => Entries.Sorted entries ∧ ∀ e ∈ entries, NestsWithin level e.2 := by
  refine ensures_bind fun offset => (nestsWithin_field hinner).bind fun ⟨key, v⟩ _ hv => ?_
  refine Ensures.bind (P := fun entries _ => Entries.Sorted entries ∧ ∀ e ∈ entries, NestsWithin level e.2) ?_
    fun entries _ h => ensures_bind fun _ => ensures_pure fun _ => h
  rw [addField]
  split
  · exact ensures_fail _
  · refine ensures_pure fun _ => ⟨Entries.sorted_insert key v hsorted, fun e he => ?_⟩
    rcases Entries.mem_insert he with rfl | he
    · exact hv
    · exact hentries e he

theorem nestsWithin_fields :
    (fields inner).Ensures fun entries _ => Entries.Sorted entries ∧ ∀ e ∈ entries, NestsWithin level e.2 := by
  refine ensures_bind fun _ => Ensures.bind (ensures_loop
    (I := fun entries _ => Entries.Sorted entries ∧ ∀ e ∈ entries, NestsWithin level e.2) ?_ ?_) fun entries _ h => ?_
  · exact fun _ => ⟨List.Pairwise.nil, nofun⟩
  · exact fun _ entries _ h _ => nestsWithin_anotherField hinner h.1 h.2
  · refine ensures_bind fun c? => ?_
    cases c? with
    | none => exact ensures_bind fun _ => ensures_fail _
    | some c => exact ensures_pure fun _ => h.1

theorem nestsWithin_items : (items inner).Ensures fun vs _ => ∀ v ∈ vs, NestsWithin level v := by
  refine ensures_bind fun _ => Ensures.bind (ensures_loop (I := fun vs _ => ∀ v ∈ vs, NestsWithin level v) ?_ ?_)
    fun vs _ h => ?_
  · exact fun _ => nofun
  · exact fun _ vs _ hvs _ => (nestsWithin_value hinner).bind fun result _ hresult =>
      ensures_bind fun _ => ensures_pure fun _ => List.forall_mem_cons.2 ⟨hresult, hvs⟩
  · refine ensures_bind fun c? => ?_
    cases c? with
    | none => exact ensures_bind fun _ => ensures_fail _
    | some c => exact ensures_pure fun _ v hv => h.1 v (List.mem_reverse.1 hv)

theorem nestsWithin_objectAfter : (objectAfter inner).Ensures fun result _ => NestsWithin (level + 1) result.2 :=
  ensures_bind fun _ => ensures_bind fun _ => (nestsWithin_fields hinner).map fun _ _ h => .object h.1 h.2

theorem nestsWithin_arrayAfter : (arrayAfter inner).Ensures fun result _ => NestsWithin (level + 1) result.2 :=
  (nestsWithin_items hinner).map fun _ _ h => .array h

end

theorem ensures_containerAfter {inner? : Option (Nat → PortableReader (String × Value))}
    {Q : String × Value → List Char → Prop} (hobject : ∀ inner ∈ inner?, (objectAfter inner).Ensures Q)
    (harray : ∀ inner ∈ inner?, (arrayAfter inner).Ensures Q) (offset : Nat) : (containerAfter inner? offset).Ensures Q := by
  have hnested : ∀ (start : List Char) after, (∀ inner ∈ inner?, (after inner).Ensures Q) →
      (nested offset start inner? after).Ensures Q := by
    intro start after hafter
    cases inner? with
    | none => exact ensures_fail _
    | some inner => exact ensures_bind fun _ => hafter inner rfl
  refine ensures_bind fun cs => ?_
  split
  · exact hnested _ _ hobject
  · split
    · exact hnested _ _ harray
    · split
      · exact ensures_fail _
      · exact ensures_fail _

theorem nestsWithin_container (level offset : Nat) :
    (container level offset).Ensures fun result _ => NestsWithin level result.2 := by
  induction level generalizing offset with
  | zero => exact ensures_containerAfter nofun nofun offset
  | succ level ih =>
    refine ensures_containerAfter ?_ ?_ offset
    · rintro _ ⟨⟩
      exact nestsWithin_objectAfter ih
    · rintro _ ⟨⟩
      exact nestsWithin_arrayAfter ih

theorem nestsWithin_document : document.Ensures fun result _ => NestsWithin nestingLimit result.2 := by
  refine ensures_bind fun _ => (nestsWithin_value (nestsWithin_container nestingLimit)).bind fun result _ hresult => ?_
  refine ensures_bind fun _ => ensures_bind fun offset => ensures_bind fun cs => ?_
  split
  · exact ensures_pure fun _ => hresult
  · exact ensures_fail _

/-! ### The end of a run -/

variable {text : List Char} {s : State} {result : Except FormatError (String × Value)}

/-- A machine that has stopped does nothing more. -/
theorem run_add_of_halted {n : Nat} (h : run text n s = .halted result) (k : Nat) :
    run text (n + k) s = .halted result := by
  induction n generalizing s with
  | zero => cases h
  | succ n ih =>
    rw [Nat.add_right_comm, run]
    rw [run] at h
    cases hstep : step text s with
    | next s' =>
      rw [hstep] at h
      exact ih h
    | halted result' =>
      rw [hstep] at h
      exact h
    | lost =>
      rw [hstep] at h
      cases h

/-- Two runs that have stopped have stopped with the same. -/
theorem eq_of_run_halted {m n : Nat} {result' : Except FormatError (String × Value)} (hm : run text m s = .halted result)
    (hn : run text n s = .halted result') : result = result' := by
  -- it is not known which of the two is longer, so both go on
  have hboth := run_add_of_halted hm n
  rw [Nat.add_comm, run_add_of_halted hn m] at hboth
  exact (Progress.halted.inj hboth).symm

/-- A machine stops with what the readers give, at the latest when there would be no work left. -/
theorem run_start {steps : Nat} (h : 4 * Text.byteLength text + 2 < steps) :
    run text steps .start = .halted (document.run (Text.byteLength text) text).1 := by
  obtain ⟨n, hn⟩ := (halts_document text).exists_run
  obtain ⟨result, hsteps⟩ := exists_halted_of_work_lt (State.sound_start text) h
  rw [hsteps, eq_of_run_halted hsteps hn]

end PortableText

open PortableText

/-- **Portable text is read safely, whatever the text.** Until the machine stops, its place is a boundary of characters
within the text, so that it can take the rest of the text at every step; no two fields of an object that is being read
have one key, and at most `nestingLimit` arrays and objects are open. It stops after a number of steps that grows with
the text, and what it stops with is what the readers give: a value in which objects have each key once and nest within
the limit, or an error at a boundary of characters within the text. -/
theorem Value.ofPortableText_safe (text : String) :
    (∀ steps, run text.toList steps .start ≠ .lost) ∧
    (∀ steps s, run text.toList steps .start = .next s →
      s.Sound text.toList ∧ s.position ≤ text.utf8ByteSize ∧
        ∃ rest, charactersFrom? s.position text.toList = some rest) ∧
    (∀ steps, 4 * text.utf8ByteSize + 2 < steps →
      run text.toList steps .start = .halted (Value.ofPortableText text)) ∧
    (∀ name v, Value.ofPortableText text = .ok (name, v) → v.WellFormed ∧ v.depth ≤ nestingLimit) ∧
    (∀ e, Value.ofPortableText text = .error e →
      IsBoundary text.toList e.offset ∧ e.offset ≤ text.utf8ByteSize) := by
  have hlength := byteLength_toList text
  have hrun := soundAfter_run (State.sound_start text.toList)
  have hend : ∀ steps, 4 * text.utf8ByteSize + 2 < steps →
      run text.toList steps .start = .halted (Value.ofPortableText text) := by
    intro steps hsteps
    rw [← hlength] at hsteps
    rw [run_start hsteps, hlength, Value.ofPortableText]
  refine ⟨fun steps hlost => ?_, fun steps s hnext => ?_, hend, fun name v hok => ?_, fun e herror => ?_⟩
  · have hsound := hrun steps
    rw [hlost] at hsound
    exact hsound
  · have hsound := hrun steps
    rw [hnext] at hsound
    have hplace := hsound.1.position
    exact ⟨hsound.1, hlength ▸ hplace.le, exists_charactersFrom?_iff.2 hplace⟩
  · exact nestsWithin_document _ _ _ _ (Prod.ext hok rfl)
  · -- the place of the error is the one at which the machine has stopped
    have hsound := hrun (4 * text.utf8ByteSize + 3)
    rw [hend _ (Nat.lt_succ_self _), herror] at hsound
    exact ⟨hsound, hlength ▸ IsBoundary.le hsound⟩

/-- A list with an object in it, and an object with a key that comes twice, behind a character of two bytes. -/
theorem Value.ofPortableText_safe_twice :
    (Value.ofPortableText "@array[@obj:p<x#=`1`>]" = .ok ("", .array [.object [("x", .integer 1)]]) ∧
      (Value.array [.object [("x", .integer 1)]]).depth ≤ nestingLimit) ∧
    Value.ofPortableText "@obj:<a$=`ö` a#=`1`>" = .error (.duplicateKey 14 "a") ∧
      IsBoundary "@obj:<a$=`ö` a#=`1`>".toList 14 := by
  obtain ⟨-, -, hend, hok, -⟩ := Value.ofPortableText_safe "@array[@obj:p<x#=`1`>]"
  obtain ⟨-, -, hend', -, herror⟩ := Value.ofPortableText_safe "@obj:<a$=`ö` a#=`1`>"
  have hrun : run "@array[@obj:p<x#=`1`>]".toList 100 .start =
      .halted (.ok ("", .array [.object [("x", .integer 1)]])) := by
    with_unfolding_all rfl
  have hrun' : run "@obj:<a$=`ö` a#=`1`>".toList 100 .start = .halted (.error (.duplicateKey 14 "a")) := by
    with_unfolding_all rfl
  have hread := Progress.halted.inj ((hend 100 (by decide)).symm.trans hrun)
  have hread' := Progress.halted.inj ((hend' 100 (by decide)).symm.trans hrun')
  exact ⟨⟨hread, (hok _ _ hread).2⟩, hread', (herror _ hread').1⟩

end SqlFormula
