import Mathlib
import SqlFormula.Proofs.Regex.Spans

/-!
# Patterns of wildcards

A pattern for whole texts says of every position which characters may stand there, or that any text may. It is matched
from left to right. A regular expression does the same if it is anchored at both ends and has a part for every wildcard.

## Main definitions

- `Wildcard`, `Wildcard.allows` — a position of a pattern, and the characters it allows
- `Wildcard.accepts` — the texts that a pattern accepts
- `Wildcard.StandsFor` — a regular expression matches what a wildcard does

## Main statements

- `Wildcard.spans_sequence` — the parts for some wildcards match the rest of a text if the wildcards accept it
- `Wildcard.isFoundIn_anchored` — an anchored expression is found in exactly the texts that the wildcards accept
-/

namespace SqlFormula

/-- A position of a pattern for whole texts. -/
inductive Wildcard where
  /-- Any text, also the empty one. -/
  | run
  | any
  | only (c : Char)
  /-- A character of a class, or one that is not in the class. -/
  | oneOf (negated : Bool) (members : List Char)
  deriving DecidableEq

namespace Wildcard

/-- Whether a character belongs to a class. A hyphen between two members makes a range of them. -/
def isMember (c : Char) : List Char → Bool
  | first :: '-' :: last :: rest => (first ≤ c && c ≤ last) || isMember c rest
  | d :: rest => c == d || isMember c rest
  | [] => false

/-- Whether a character can stand at a position. -/
def allows (c : Char) : Wildcard → Bool
  | .run | .any => true
  | .only d => c == d
  | .oneOf negated members => isMember c members != negated

/-- Whether a text consists of what the positions of a pattern allow, one after the other. -/
def accepts : List Wildcard → List Char → Bool
  | [], text => text.isEmpty
  | .run :: ws, text => text.tails.any (accepts ws)
  | _ :: _, [] => false
  | w :: ws, c :: text => w.allows c && accepts ws text

theorem accepts_run {ws : List Wildcard} {text : List Char} :
    accepts (.run :: ws) text = true ↔ ∃ rest, rest <:+ text ∧ accepts ws rest = true := by
  simp only [accepts, List.any_eq_true, List.mem_tails]

theorem accepts_cons {w : Wildcard} (hw : w ≠ .run) {ws : List Wildcard} {text : List Char} :
    accepts (w :: ws) text = true ↔ ∃ c rest, text = c :: rest ∧ w.allows c = true ∧ accepts ws rest = true := by
  cases text with
  | nil => cases w <;> simp [accepts] at hw ⊢
  | cons c text => cases w <;> simp [accepts] at hw ⊢

/-! ### Parts of regular expressions -/

open Regex

/-- The parts of a text that a position of a pattern matches. -/
def Spans (text : List Char) (w : Wildcard) (i j : Nat) : Prop :=
  match w with
  | .run => i ≤ j ∧ j ≤ text.length
  | w => j = i + 1 ∧ ∃ c, text[i]? = some c ∧ w.allows c = true

/-- A regular expression matches what a position of a pattern does. -/
def StandsFor (p : Pattern) (w : Wildcard) : Prop :=
  ∀ text i j, i ≤ text.length → (p.Spans text i j ↔ w.Spans text i j)

theorem standsFor_set {w : Wildcard} (hw : w ≠ .run) {s : CharSet} (h : ∀ c, s.mem c = w.allows c) :
    StandsFor (.set s) w := by
  intro text i j _
  have hset : (Pattern.set s).Spans text i j ↔ j = i + 1 ∧ ∃ c, text[i]? = some c ∧ w.allows c = true := by
    simp only [Pattern.Spans, h]
  cases w with
  | run => exact absurd rfl hw
  | _ => exact hset

/-- Any number of any characters are any text. -/
theorem standsFor_repeat {s : CharSet} (h : ∀ c, s.mem c = true) : StandsFor (.repeat (.set s) 0 none) .run := by
  intro text i j hi
  have hset (i j : Nat) : (Pattern.set s).Spans text i j ↔ j = i + 1 ∧ i < text.length := by
    simp [Pattern.Spans, h, ← Option.isSome_iff_exists]
  constructor
  · intro hspans
    have hle := Pattern.le_of_spans hspans
    exact ⟨hle.1, hle.2 hi⟩
  · rintro ⟨hij, hj⟩
    refine ⟨j - i, Nat.zero_le _, by rintro _ ⟨⟩, ?_⟩
    -- one character after the other
    obtain ⟨n, rfl⟩ := Nat.exists_eq_add_of_le hij
    rw [Nat.add_sub_cancel_left]
    clear hij
    induction n generalizing i with
    | zero => rfl
    | succ n ih =>
      have hsteps := ih (i + 1) (by omega) (by omega)
      rw [Nat.add_right_comm] at hsteps
      exact ⟨i + 1, (hset i _).2 ⟨rfl, by omega⟩, hsteps⟩

theorem drop_eq_cons_iff {text rest : List Char} {i : Nat} {c : Char} :
    text.drop i = c :: rest ↔ text[i]? = some c ∧ rest = text.drop (i + 1) := by
  rw [List.drop_eq_getElem?_toList_append]
  cases hc : text[i]? with
  | none =>
    have hlength := List.getElem?_eq_none_iff.1 hc
    simp [List.drop_eq_nil_of_le (Nat.le_succ_of_le hlength)]
  | some d => simp [eq_comm]

theorem spans_sequence_cons (text : List Char) (p : Pattern) (ps : List Pattern) (i j : Nat) :
    (Pattern.sequence (p :: ps)).Spans text i j ↔
      ∃ k, p.Spans text i k ∧ (Pattern.sequence ps).Spans text k j := by
  cases ps with
  | nil => simp [Pattern.sequence, Pattern.Spans]
  | cons q qs => rfl

/-- A run may end before any rest of the text. -/
theorem exists_spans_run_iff {ws : List Wildcard} {text : List Char} {i : Nat} (hi : i ≤ text.length) :
    (∃ k, Wildcard.run.Spans text i k ∧ k ≤ text.length ∧ accepts ws (text.drop k) = true) ↔
      accepts (.run :: ws) (text.drop i) = true := by
  rw [accepts_run]
  constructor
  · rintro ⟨k, ⟨hik, hk⟩, -, haccepts⟩
    refine ⟨text.drop k, ?_, haccepts⟩
    obtain ⟨n, rfl⟩ := Nat.exists_eq_add_of_le hik
    rw [← List.drop_drop]
    exact List.drop_suffix n _
  · rintro ⟨rest, hrest, haccepts⟩
    have hdrop := List.suffix_iff_eq_drop.1 hrest
    have hlength := hrest.length_le
    rw [List.drop_drop] at hdrop
    rw [List.length_drop] at hdrop hlength
    rw [hdrop] at haccepts
    exact ⟨_, ⟨Nat.le_add_right i _, by omega⟩, by omega, haccepts⟩

/-- Any other wildcard takes one character. -/
theorem exists_spans_iff_of_ne {w : Wildcard} (hw : w ≠ .run) {ws : List Wildcard} {text : List Char} {i : Nat} :
    (∃ k, w.Spans text i k ∧ k ≤ text.length ∧ accepts ws (text.drop k) = true) ↔
      accepts (w :: ws) (text.drop i) = true := by
  have hspans (k : Nat) : w.Spans text i k ↔ k = i + 1 ∧ ∃ c, text[i]? = some c ∧ w.allows c = true := by
    cases w with
    | run => exact absurd rfl hw
    | _ => rfl
  rw [accepts_cons hw]
  simp only [hspans, drop_eq_cons_iff]
  constructor
  · rintro ⟨k, ⟨rfl, c, hc, hallows⟩, -, haccepts⟩
    exact ⟨c, _, ⟨hc, rfl⟩, hallows, haccepts⟩
  · rintro ⟨c, rest, ⟨hc, rfl⟩, hallows, haccepts⟩
    have hlt := (List.getElem?_eq_some_iff.1 hc).1
    exact ⟨i + 1, ⟨rfl, c, hc, hallows⟩, hlt, haccepts⟩

theorem exists_spans_iff (w : Wildcard) {ws : List Wildcard} {text : List Char} {i : Nat} (hi : i ≤ text.length) :
    (∃ k, w.Spans text i k ∧ k ≤ text.length ∧ accepts ws (text.drop k) = true) ↔
      accepts (w :: ws) (text.drop i) = true := by
  by_cases hw : w = .run
  · subst hw
    exact exists_spans_run_iff hi
  · exact exists_spans_iff_of_ne hw

/-- The parts for some positions, up to the end of the text, match what the positions accept. -/
theorem spans_sequence {ps : List Pattern} {ws : List Wildcard} (h : List.Forall₂ StandsFor ps ws) {text : List Char}
    {i : Nat} (hi : i ≤ text.length) :
    (∃ j, (Pattern.sequence (ps ++ [.look .textEnd])).Spans text i j) ↔ accepts ws (text.drop i) = true := by
  induction h generalizing i with
  | nil =>
    show (∃ j, i = j ∧ (text[i]?).isNone = true) ↔ (text.drop i).isEmpty = true
    simp
  | @cons p w ps ws hp _ ih =>
    simp only [← exists_spans_iff w hi, List.cons_append, spans_sequence_cons, hp text i _ hi]
    constructor
    · rintro ⟨j, k, hk, hj⟩
      have hle : k ≤ text.length := (Pattern.le_of_spans ((hp text i k hi).2 hk)).2 hi
      exact ⟨k, hk, hle, (ih hle).1 ⟨j, hj⟩⟩
    · rintro ⟨k, hk, hle, haccepts⟩
      obtain ⟨j, hj⟩ := (ih hle).2 haccepts
      exact ⟨j, k, hk, hj⟩

/-- An anchored expression is found in exactly the texts that the positions accept. -/
theorem isFoundIn_anchored {ps : List Pattern} {ws : List Wildcard} (h : List.Forall₂ StandsFor ps ws)
    (text : List Char) :
    (Pattern.sequence (.empty :: .look .textStart :: (ps ++ [.look .textEnd]))).isFoundIn text = accepts ws text := by
  rw [Bool.eq_iff_iff, Pattern.isFoundIn_iff]
  have hstart {i : Nat} (hi : i ≤ text.length)
      (h : Look.holds (before? text i) text[i]? .textStart = true) : i = 0 := by
    cases i with
    | zero => rfl
    | succ i =>
      rw [before?, Look.holds, List.getElem?_eq_getElem hi] at h
      cases h
  have hsequence := spans_sequence h (Nat.zero_le text.length)
  rw [List.drop_zero] at hsequence
  rw [← hsequence]
  simp only [spans_sequence_cons, Pattern.Spans]
  constructor
  · rintro ⟨i, j, hi, _, rfl, _, ⟨rfl, hlook⟩, hj⟩
    obtain rfl := hstart hi hlook
    exact ⟨j, hj⟩
  · rintro ⟨j, hj⟩
    exact ⟨0, j, Nat.zero_le _, 0, rfl, 0, ⟨rfl, rfl⟩, hj⟩

end Wildcard

end SqlFormula
