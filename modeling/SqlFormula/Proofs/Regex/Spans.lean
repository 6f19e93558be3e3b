import Mathlib
import SqlFormula.Regex.Match

/-!
# What regular expressions match

A pattern matches parts of a text, each from one place to another. Moving sets of places finds the ends of all the
parts that begin at one of them.

## Main definitions

- `Steps` — so many steps of a relation
- `Pattern.Spans` — the parts of a text that a pattern matches
- `Moves` — moving sets of places follows a relation between places

## Main statements

- `steps_of_le` — more steps forward than there are places are never needed
- `Pattern.moves_mover` — the mover of a pattern follows what it matches
- `Pattern.isFoundIn_iff` — a pattern is found in a text exactly if it matches some part of it
-/

namespace SqlFormula.Regex

/-! ### Steps -/

section

variable {r : Nat → Nat → Prop}

/-- So many steps of a relation. -/
def Steps (r : Nat → Nat → Prop) : Nat → Nat → Nat → Prop
  | 0, i, j => i = j
  | n + 1, i, j => ∃ k, r i k ∧ Steps r n k j

theorem steps_add {m n i j : Nat} : Steps r (m + n) i j ↔ ∃ k, Steps r m i k ∧ Steps r n k j := by
  induction m generalizing i with
  | zero => simp [Steps]
  | succ m ih =>
    rw [Nat.add_right_comm]
    simp only [Steps, ih]
    constructor
    · rintro ⟨k, hik, l, hkl, hlj⟩
      exact ⟨l, ⟨k, hik, hkl⟩, hlj⟩
    · rintro ⟨l, ⟨k, hik, hkl⟩, hlj⟩
      exact ⟨k, hik, l, hkl, hlj⟩

/-- A relation does not lead out of the places below a number. -/
def Within (size : Nat) (r : Nat → Nat → Prop) : Prop :=
  ∀ i j, r i j → i < size → j < size

theorem Within.steps {size : Nat} (hr : Within size r) (n : Nat) : Within size (Steps r n) := by
  induction n with
  | zero =>
    rintro i j rfl hi
    exact hi
  | succ n ih =>
    rintro i j ⟨k, hik, hkj⟩ hi
    exact ih k j hkj (hr i k hik hi)

theorem le_of_steps (hr : ∀ i j, r i j → i ≤ j) {n i j : Nat} (h : Steps r n i j) : i ≤ j := by
  induction n generalizing i with
  | zero => exact Nat.le_of_eq h
  | succ n ih =>
    obtain ⟨k, hik, hkj⟩ := h
    exact Nat.le_trans (hr i k hik) (ih hkj)

/-- Steps that stay where they are can be left out, and of the others there are at most as many as places on the way. -/
theorem steps_of_le (hr : ∀ i j, r i j → i ≤ j) {n i j : Nat} (h : Steps r n i j) : ∃ m ≤ j - i, Steps r m i j := by
  induction n generalizing i with
  | zero => exact ⟨0, Nat.zero_le _, h⟩
  | succ n ih =>
    obtain ⟨k, hik, hkj⟩ := h
    obtain ⟨m, hm, hsteps⟩ := ih hkj
    have hle := hr i k hik
    have hle' := le_of_steps hr hsteps
    by_cases heq : i = k
    · subst heq
      exact ⟨m, hm, hsteps⟩
    · exact ⟨m + 1, by omega, k, hik, hsteps⟩

end

/-! ### Parts of texts -/

/-- The character before a place; none at the beginning of the text. -/
def before? (text : List Char) : Nat → Option Char
  | 0 => none
  | i + 1 => text[i]?

/-- The parts of a text that a pattern matches, from one place to another. -/
def Pattern.Spans (text : List Char) : Pattern → Nat → Nat → Prop
  | .empty, i, j => i = j
  | .set s, i, j => j = i + 1 ∧ ∃ c, text[i]? = some c ∧ s.mem c = true
  | .look l, i, j => i = j ∧ l.holds (before? text i) text[i]? = true
  | .seq p q, i, j => ∃ k, p.Spans text i k ∧ q.Spans text k j
  | .alt p q, i, j => p.Spans text i j ∨ q.Spans text i j
  | .repeat p least most, i, j => ∃ n, least ≤ n ∧ (∀ m ∈ most, n ≤ max least m) ∧ Steps (p.Spans text) n i j
  | .capture p, i, j => p.Spans text i j

/-- A pattern goes forward and stays within the text. -/
theorem Pattern.le_of_spans {text : List Char} {p : Pattern} {i j : Nat} (h : p.Spans text i j) :
    i ≤ j ∧ (i ≤ text.length → j ≤ text.length) := by
  induction p generalizing i j with
  | empty =>
    obtain rfl : i = j := h
    exact ⟨le_rfl, id⟩
  | set s =>
    obtain ⟨rfl, c, hc, -⟩ := h
    have hlt := (List.getElem?_eq_some_iff.1 hc).1
    omega
  | look l =>
    obtain ⟨rfl, -⟩ := h
    exact ⟨le_rfl, id⟩
  | seq p q ihp ihq =>
    obtain ⟨k, hp, hq⟩ := h
    have hik := ihp hp
    have hkj := ihq hq
    omega
  | alt p q ihp ihq =>
    cases h with
    | inl hp => exact ihp hp
    | inr hq => exact ihq hq
  | «repeat» p least most ih =>
    obtain ⟨n, -, -, hsteps⟩ := h
    have hwithin : Within (text.length + 1) (p.Spans text) :=
      fun i j hij hi => Nat.lt_succ_iff.2 ((ih hij).2 (Nat.le_of_lt_succ hi))
    exact ⟨le_of_steps (fun i j h => (ih h).1) hsteps,
      fun hi => Nat.le_of_lt_succ (hwithin.steps n i j hsteps (Nat.lt_succ_iff.2 hi))⟩
  | capture p ih => exact ih h

/-! ### Moving sets of places -/

/-- A set has only places below a number. -/
def Inside (size places : Nat) : Prop :=
  ∀ i, places.testBit i = true → i < size

/-- Moving a set gives the places that a relation leads to from those of the set. -/
def Moves (size : Nat) (move : Nat → Nat) (r : Nat → Nat → Prop) : Prop :=
  ∀ places, Inside size places → ∀ j, (move places).testBit j = true ↔ ∃ i, places.testBit i = true ∧ r i j

section

variable {size : Nat} {move move' : Nat → Nat} {r r' : Nat → Nat → Prop}

theorem Moves.inside (h : Moves size move r) (hr : Within size r) {places : Nat} (hp : Inside size places) :
    Inside size (move places) := by
  intro j hj
  obtain ⟨i, hi, hij⟩ := (h places hp j).1 hj
  exact hr i j hij (hp i hi)

theorem Moves.congr (h : Moves size move r) (hr : ∀ i j, i < size → (r i j ↔ r' i j)) : Moves size move r' := by
  intro places hp j
  rw [h places hp j]
  exact exists_congr fun i => and_congr_right fun hi => hr i j (hp i hi)

theorem Moves.comp (h : Moves size move r) (hr : Within size r) (h' : Moves size move' r') :
    Moves size (fun places => move' (move places)) fun i j => ∃ k, r i k ∧ r' k j := by
  intro places hp j
  rw [h' _ (h.inside hr hp) j]
  constructor
  · rintro ⟨k, hk, hkj⟩
    obtain ⟨i, hi, hik⟩ := (h places hp k).1 hk
    exact ⟨i, hi, k, hik, hkj⟩
  · rintro ⟨i, hi, k, hik, hkj⟩
    exact ⟨k, (h places hp k).2 ⟨i, hi, hik⟩, hkj⟩

theorem Moves.times (h : Moves size move r) (hr : Within size r) (n : Nat) :
    Moves size (moveTimes move n) (Steps r n) := by
  induction n with
  | zero =>
    intro places hp j
    simp [moveTimes, Steps]
  | succ n ih =>
    intro places hp j
    rw [moveTimes]
    split
    · next hzero =>
      subst hzero
      simp
    · exact (h.comp hr ih) places hp j

/-- A set that no step leaves is not left by any number of steps. -/
theorem testBit_of_steps {places : Nat} (hstep : ∀ i k, places.testBit i = true → r i k → places.testBit k = true)
    {m i j : Nat} (hi : places.testBit i = true) (h : Steps r m i j) : places.testBit j = true := by
  induction m generalizing i with
  | zero => exact h ▸ hi
  | succ m ih =>
    obtain ⟨k, hik, hkj⟩ := h
    exact ih (hstep i k hi hik) hkj

/-- The places on the way belong to those that are reached. Once no new place is reached, none will be. -/
theorem Moves.upTo (h : Moves size move r) (hr : Within size r) (n : Nat) :
    Moves size (moveUpTo move n) fun i j => ∃ m ≤ n, Steps r m i j := by
  induction n with
  | zero =>
    intro places hp j
    simp [moveUpTo, Steps]
  | succ n ih =>
    intro places hp j
    rw [moveUpTo]
    dsimp only
    split
    · next hclosed =>
      -- no new place is reached, so all that can be reached are in the set
      have hstep (i k : Nat) (hi : places.testBit i = true) (hik : r i k) : places.testBit k = true := by
        rw [← hclosed, Nat.testBit_or, (h places hp k).2 ⟨i, hi, hik⟩, Bool.or_true]
      constructor
      · exact fun hj => ⟨j, hj, 0, Nat.zero_le _, rfl⟩
      · rintro ⟨i, hi, m, -, hij⟩
        exact testBit_of_steps hstep hi hij
    · have hmore : Inside size (places ||| move places) := by
        intro i hi
        rw [Nat.testBit_or, Bool.or_eq_true] at hi
        exact hi.elim (hp i) (h.inside hr hp i)
      rw [ih _ hmore j]
      simp only [Nat.testBit_or, Bool.or_eq_true, h places hp]
      constructor
      · rintro ⟨i, hi | ⟨k, hk, hki⟩, m, hm, hij⟩
        · exact ⟨i, hi, m, by omega, hij⟩
        · exact ⟨k, hk, m + 1, by omega, i, hki, hij⟩
      · rintro ⟨i, hi, m, hm, hij⟩
        cases m with
        | zero => exact ⟨i, .inl hi, 0, Nat.zero_le _, hij⟩
        | succ m =>
          obtain ⟨k, hik, hkj⟩ := hij
          exact ⟨k, .inr ⟨i, hi, hik⟩, m, by omega, hkj⟩

end

/-! ### Bits -/

theorem testBit_ofBits (bits : List Bool) (i : Nat) : (ofBits bits).testBit i = bits[i]?.getD false := by
  induction bits generalizing i with
  | nil => simp [ofBits]
  | cons b bits ih =>
    have hcons : ofBits (b :: bits) = Nat.bit b (ofBits bits) := (Nat.bit_val b (ofBits bits)).symm
    rw [hcons]
    cases i with
    | zero => simp
    | succ i => rw [Nat.testBit_bit_succ, ih, List.getElem?_cons_succ]

theorem testBit_placesBefore (text : List Char) (s : CharSet) (i : Nat) :
    (placesBefore text s).testBit i = true ↔ ∃ c, text[i]? = some c ∧ s.mem c = true := by
  rw [placesBefore, testBit_ofBits, List.getElem?_map]
  cases text[i]? <;> simp

theorem getElem?_placesWhere (l : Look) (before : Option Char) (text : List Char) {i : Nat} (hi : i ≤ text.length) :
    (placesWhere l before text)[i]? = some (l.holds (if i = 0 then before else before? text i) text[i]?) := by
  induction text generalizing before i with
  | nil =>
    obtain rfl : i = 0 := Nat.le_zero.1 hi
    rfl
  | cons c text ih =>
    cases i with
    | zero => rfl
    | succ i =>
      rw [placesWhere, List.getElem?_cons_succ, ih (some c) (Nat.le_of_succ_le_succ hi), List.getElem?_cons_succ]
      cases i <;> rfl

theorem testBit_placesWhere (l : Look) (text : List Char) {i : Nat} (hi : i ≤ text.length) :
    (ofBits (placesWhere l none text)).testBit i = l.holds (before? text i) text[i]? := by
  rw [testBit_ofBits, getElem?_placesWhere l none text hi]
  cases i <;> rfl

/-! ### Patterns -/

namespace Pattern

variable {text : List Char}

theorem within_spans (p : Pattern) : Within (text.length + 1) (p.Spans text) := by
  intro i j h hi
  have hle := (le_of_spans h).2
  omega

theorem moves_set (s : CharSet) :
    Moves (text.length + 1) ((mover text (.set s)).move (text.length + 1)) (Spans text (.set s)) := by
  intro places hp j
  have hbit (i : Nat) : (places &&& placesBefore text s).testBit i = true ↔
      places.testBit i = true ∧ ∃ c, text[i]? = some c ∧ s.mem c = true := by
    rw [Nat.testBit_and, Bool.and_eq_true, testBit_placesBefore]
  rw [mover, Mover.move, Nat.testBit_shiftLeft, Bool.and_eq_true, decide_eq_true_iff, hbit]
  constructor
  · rintro ⟨hj, hi, hc⟩
    exact ⟨j - 1, hi, by omega, hc⟩
  · rintro ⟨i, hi, rfl, hc⟩
    exact ⟨by omega, hi, hc⟩

theorem moves_look (l : Look) :
    Moves (text.length + 1) ((mover text (.look l)).move (text.length + 1)) (Spans text (.look l)) := by
  intro places hp j
  rw [mover, Mover.move, Nat.testBit_and, Bool.and_eq_true]
  constructor
  · rintro ⟨hj, hl⟩
    rw [testBit_placesWhere l text (Nat.le_of_lt_succ (hp j hj))] at hl
    exact ⟨j, hj, rfl, hl⟩
  · rintro ⟨i, hi, rfl, hl⟩
    rw [testBit_placesWhere l text (Nat.le_of_lt_succ (hp i hi))]
    exact ⟨hi, hl⟩

/-- A repetition is made of the steps that it needs, and of further ones, as many as it allows or, without a limit, as
there are places. -/
theorem spans_repeat_iff (p : Pattern) (least : Nat) (most : Option Nat) {i j : Nat} (hi : i < text.length + 1) :
    Spans text (.repeat p least most) i j ↔ ∃ k, Steps (p.Spans text) least i k ∧
      ∃ m ≤ (most.map (· - least)).getD (text.length + 1), Steps (p.Spans text) m k j := by
  constructor
  · rintro ⟨n, hn, hmost, hij⟩
    obtain ⟨m, rfl⟩ := Nat.exists_eq_add_of_le hn
    obtain ⟨k, hik, hkj⟩ := steps_add.1 hij
    cases most with
    | none =>
      -- no more steps are needed than there are places
      have hj := (within_spans p).steps _ i j hij hi
      obtain ⟨m', hm', hsteps⟩ := steps_of_le (fun i j h => (le_of_spans h).1) hkj
      exact ⟨k, hik, m', by rw [Option.map_none, Option.getD_none]; omega, hsteps⟩
    | some most =>
      have hle := hmost most rfl
      exact ⟨k, hik, m, by rw [Option.map_some, Option.getD_some]; omega, hkj⟩
  · rintro ⟨k, hik, m, hm, hkj⟩
    refine ⟨least + m, by omega, ?_, steps_add.2 ⟨k, hik, hkj⟩⟩
    rintro most rfl
    rw [Option.map_some, Option.getD_some] at hm
    omega

/-- The mover of a pattern follows what it matches. -/
theorem moves_mover (p : Pattern) :
    Moves (text.length + 1) ((p.mover text).move (text.length + 1)) (p.Spans text) := by
  induction p with
  | empty =>
    intro places hp j
    simp [mover, Mover.move, Spans]
  | set s => exact moves_set s
  | look l => exact moves_look l
  | seq p q ihp ihq => exact ihp.comp (within_spans p) ihq
  | alt p q ihp ihq =>
    intro places hp j
    rw [mover, Mover.move, Nat.testBit_or, Bool.or_eq_true, ihp places hp j, ihq places hp j, ← exists_or]
    exact exists_congr fun i => and_or_left.symm
  | «repeat» p least most ih =>
    have hmoves := (ih.times (within_spans p) least).comp ((within_spans p).steps least)
      (ih.upTo (within_spans p) ((most.map (· - least)).getD (text.length + 1)))
    have hrepeat := hmoves.congr fun i j hi => (spans_repeat_iff p least most hi).symm
    cases most with
    | none => exact hrepeat
    | some most => exact hrepeat
  | capture p ih => exact ih

theorem testBit_allPlaces (i : Nat) : (allPlaces text).testBit i = true ↔ i ≤ text.length := by
  show (2 ^ (text.length + 1) - 1).testBit i = true ↔ _
  rw [Nat.testBit_two_pow_sub_one, decide_eq_true_iff, Nat.lt_succ_iff]

/-- A pattern is found in a text exactly if it matches some part of it. -/
theorem isFoundIn_iff (p : Pattern) : p.isFoundIn text = true ↔ ∃ i j, i ≤ text.length ∧ p.Spans text i j := by
  have hinside : Inside (text.length + 1) (allPlaces text) :=
    fun i hi => Nat.lt_succ_iff.2 ((testBit_allPlaces i).1 hi)
  have hmover : Moves (text.length + 1) ((p.mover text).move (text.length + 1)) (p.Spans text) := moves_mover p
  have hmoves := hmover (allPlaces text) hinside
  rw [isFoundIn, bne_iff_ne]
  constructor
  · intro hne
    obtain ⟨j, hj⟩ := Nat.exists_testBit_of_ne_zero hne
    obtain ⟨i, hi, hij⟩ := (hmoves j).1 hj
    exact ⟨i, j, (testBit_allPlaces i).1 hi, hij⟩
  · rintro ⟨i, j, hi, hij⟩ hzero
    have hj := (hmoves j).2 ⟨i, (testBit_allPlaces i).2 hi, hij⟩
    rw [hzero, Nat.zero_testBit] at hj
    cases hj

end Pattern

end SqlFormula.Regex
