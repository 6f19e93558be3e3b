import Mathlib
import SqlFormula.Proofs.Regex.Class

/-!
# Reading the regular expressions of wildcards

The regular expression of a pattern of wildcards has a piece of text for each of them, and these are read one after the
other, whatever comes before and after.

## Main definitions

- `Wildcard.written` — the piece of a regular expression for a wildcard
- `Wildcard.Readable` — a wildcard whose piece is read as what it means

## Main statements

- `Regex.run_written` — the piece for a wildcard is read as a part that stands for it
- `Regex.read?_anchored` — the whole expression is read as these parts between the ends of the text
- `Regex.regexMatch_anchored` — it is found in exactly the texts that the wildcards accept
-/

namespace SqlFormula

namespace Wildcard

/-- The piece of a regular expression for a position. -/
def written : Wildcard → List Char
  | .run => ['.', '*']
  | .any => ['.']
  | .only c => escapeChar c
  | .oneOf negated members => '[' :: (if negated then ['^'] else []) ++ members.flatMap classMember ++ [']']

/-- The members of a class. -/
def members : Wildcard → List Char
  | .oneOf _ members => members
  | _ => []

/-- A class that is written as it is meant: it has members, of which the first is not taken for a denial, its ranges have
their ends in order, and no hyphens follow one another. -/
def Readable : Wildcard → Prop
  | .oneOf negated members =>
    members ≠ [] ∧ (negated = false → members.head? ≠ some '^') ∧ ascends members = true ∧ ¬['-', '-'] <:+: members
  | _ => True

end Wildcard

namespace Regex

open Reader Wildcard

/-- An expression of which some parts have been read after `(?s)`. -/
def soFar (items : List Piece) : ReadSoFar where
  flags := wholeFlags
  names := []
  items := items
  branches := []

theorem consuming_round (level : Nat) (c : Char) (sofar : ReadSoFar) :
    (readStep (alternation level) c sofar).Consuming :=
  consuming_readStep _ c sofar

/-- The rounds of the reader of expressions. -/
def rounds (level : Nat) (sofar : ReadSoFar) : RegexReader ReadSoFar :=
  loop (fun cs => cs.head?.filter (· != ')')) (readStep (alternation level)) (consuming_round level) sofar

section

variable {level stop : Nat} {items : List Piece} {cs : List Char}

theorem run_rounds_cons {sofar sofar' : ReadSoFar} {c : Char} {rest : List Char} (hc : c ≠ ')')
    (hstep : (readStep (alternation level) c sofar).run stop (c :: cs) = (.ok sofar', rest)) :
    (rounds level sofar).run stop (c :: cs) = (rounds level sofar').run stop rest := by
  refine run_loop_step (List.cons_ne_nil _ _) ?_ hstep
  simpa using hc

/-- The expression before `(?s)`. -/
def start : ReadSoFar where
  flags := .initial false
  names := []
  items := []
  branches := []

theorem run_rounds_start :
    (rounds level start).run stop ("(?s)".toList ++ cs) = (rounds level (soFar [.modes])).run stop cs :=
  run_rounds_cons (by decide) rfl

theorem run_rounds_caret : (rounds level (soFar items)).run stop ('^' :: cs) =
    (rounds level (soFar (.leaf (.look .textStart) :: items))).run stop cs :=
  run_rounds_cons (by decide) rfl

theorem run_rounds_dollar : (rounds level (soFar items)).run stop ('$' :: cs) =
    (rounds level (soFar (.leaf (.look .textEnd) :: items))).run stop cs :=
  run_rounds_cons (by decide) rfl

theorem run_rounds_dot : (rounds level (soFar items)).run stop ('.' :: cs) =
    (rounds level (soFar (.leaf (.set (.range 0 0x10FFFF)) :: items))).run stop cs :=
  run_rounds_cons (by decide) rfl

/-- A star repeats the part before it, unless a question mark comes after. -/
theorem run_rounds_star {p : Piece} (hp : p.repeatable = true) (hcs : cs.head? ≠ some '?') :
    (rounds level (soFar (p :: items))).run stop ('*' :: cs) =
      (rounds level (soFar (p.repeated 0 none :: items))).run stop cs := by
  refine run_rounds_cons (by decide) ?_
  show (eat '?' >>= _).run stop cs = _
  rw [run_bind_ok (run_eat_of_ne hcs)]
  show (if p.repeatable = true then _ else _ : RegexReader ReadSoFar).run stop cs = _
  rw [if_pos hp]
  rfl

/-- A character with a meaning of its own stands for itself after a backslash. -/
theorem run_rounds_meta {c : Char} (hmeta : isMeta c = true) : (rounds level (soFar items)).run stop ('\\' :: c :: cs) =
    (rounds level (soFar (.leaf (.set (.char c)) :: items))).run stop cs := by
  have hescape : (escape wholeFlags).run stop (c :: cs) = (.ok (.literal c false), cs) := by
    have hc := List.contains_iff_mem.1 hmeta
    simp only [String.reduceToList, List.mem_cons, List.not_mem_nil, or_false] at hc
    rcases hc with rfl | rfl | rfl | rfl | rfl | rfl | rfl | rfl | rfl | rfl | rfl | rfl | rfl | rfl | rfl | rfl |
      rfl | rfl <;> rfl
  have hprimitive : (primitive wholeFlags '\\').run stop (c :: cs) = (.ok (.set (.char c)), cs) := by
    show (escape wholeFlags >>= _).run stop (c :: cs) = _
    rw [run_bind_ok hescape]
    rfl
  refine run_rounds_cons (by decide) ?_
  show (primitive wholeFlags '\\' >>= _).run stop (c :: cs) = _
  rw [run_bind_ok hprimitive]
  rfl

/-- A character without a meaning of its own stands for itself. -/
theorem run_rounds_plain {c : Char} (hmeta : ¬isMeta c = true) : (rounds level (soFar items)).run stop (c :: cs) =
    (rounds level (soFar (.leaf (.set (.char c)) :: items))).run stop cs := by
  have hne {d : Char} (hd : isMeta d = true) : c ≠ d := fun heq => hmeta (heq ▸ hd)
  have hprimitive : (primitive wholeFlags c).run stop cs = (.ok (.set (.char c)), cs) := by
    rw [primitive.eq_5 _ _ (hne (by decide)) (hne (by decide)) (hne (by decide)) (hne (by decide))]
    rfl
  refine run_rounds_cons (hne (by decide)) ?_
  have hskip : (skip 1 : RegexReader Unit).run stop (c :: cs) = (.ok (), cs) := rfl
  have hverbose : (soFar items).flags.verbose = false := rfl
  show (readStep (alternation level) c (soFar items)).run stop (c :: cs) = _
  rw [readStep, run_bind_ok hskip]
  simp only [hverbose, Bool.false_and, Bool.false_eq_true, if_false]
  -- all but the last way to go on are for characters with a meaning
  split
  all_goals first
    | exact absurd rfl (hne (by decide))
    | skip
  show (primitive wholeFlags c >>= _).run stop cs = _
  rw [run_bind_ok hprimitive]
  rfl

/-- A character that is escaped, or needs no escape, stands for itself. -/
theorem run_rounds_escapeChar (c : Char) : (rounds level (soFar items)).run stop (SqlFormula.escapeChar c ++ cs) =
    (rounds level (soFar (.leaf (.set (.char c)) :: items))).run stop cs := by
  rw [SqlFormula.escapeChar]
  split
  · next hmeta => exact run_rounds_meta hmeta
  · next hmeta => exact run_rounds_plain hmeta

theorem run_rounds_bracket {s : CharSet} {depth : Nat} {rest : List Char}
    (h : (bracket wholeFlags nestingLimit).run stop cs = (.ok (s, depth), rest)) :
    (rounds level (soFar items)).run stop ('[' :: cs) =
      (rounds level (soFar (⟨.set s, depth, true⟩ :: items))).run stop rest := by
  refine run_rounds_cons (by decide) ?_
  show (bracket wholeFlags nestingLimit >>= _).run stop cs = _
  rw [run_bind_ok h]
  rfl

/-! ### Pieces -/

/-- The piece for a wildcard is read as a part that stands for it. -/
theorem run_written {w : Wildcard} (hw : w.Readable) (level stop : Nat) (items : List Piece)
    (hcs : cs.head? ≠ some '?') :
    ∃ p : Piece, p.depth ≤ 2 ∧ StandsFor p.pattern w ∧
      (rounds level (soFar items)).run stop (w.written ++ cs) = (rounds level (soFar (p :: items))).run stop cs := by
  have hall (c : Char) : (CharSet.range 0 0x10FFFF).mem c = true := by
    have hvalid : c.toNat < 0xD800 ∨ 0xDFFF < c.toNat ∧ c.toNat < 0x110000 := c.valid
    rw [CharSet.mem, Bool.and_eq_true, decide_eq_true_iff, decide_eq_true_iff]
    omega
  cases w with
  | run =>
    refine ⟨(Piece.leaf (.set (.range 0 0x10FFFF))).repeated 0 none, by decide, standsFor_repeat hall, ?_⟩
    show (rounds level (soFar items)).run stop ('.' :: '*' :: cs) = _
    rw [run_rounds_dot, run_rounds_star rfl hcs]
  | any => exact ⟨.leaf (.set (.range 0 0x10FFFF)), Nat.zero_le _, standsFor_set (by rintro ⟨⟩) hall, run_rounds_dot⟩
  | only c =>
    exact ⟨.leaf (.set (.char c)), Nat.zero_le _, standsFor_set (by rintro ⟨⟩) (mem_char · c), run_rounds_escapeChar c⟩
  | oneOf negated members =>
    obtain ⟨hne, hmark, hascends, hdouble⟩ := hw
    obtain ⟨s, depth, hrun, hdepth, hmem⟩ := run_bracket hne hmark hascends hdouble 249 stop cs
    refine ⟨⟨.set s, depth, true⟩, hdepth, standsFor_set (by rintro ⟨⟩) hmem, ?_⟩
    have htext : (oneOf negated members).written ++ cs =
        '[' :: ((if negated then ['^'] else []) ++ classText members cs) := by
      simp only [written, classText, List.cons_append, List.append_assoc, List.nil_append]
    rw [htext, run_rounds_bracket hrun]

theorem head?_written (w : Wildcard) (cs : List Char) : (w.written ++ cs).head? ≠ some '?' := by
  cases w with
  | run => exact nofun
  | any => exact nofun
  | only c =>
    rw [written, SqlFormula.escapeChar]
    split
    · exact nofun
    · next h =>
      intro heq
      obtain rfl : c = '?' := Option.some.inj heq
      exact h (by decide)
  | oneOf negated members => exact nofun

/-- The pieces of some wildcards are read one after the other. -/
theorem run_flatMap_written {ws : List Wildcard} (hws : ∀ w ∈ ws, w.Readable) (level stop : Nat) (items : List Piece)
    (hcs : cs.head? ≠ some '?') :
    ∃ ps : List Piece, (∀ p ∈ ps, p.depth ≤ 2) ∧ List.Forall₂ StandsFor (ps.map Piece.pattern) ws ∧
      (rounds level (soFar items)).run stop (ws.flatMap written ++ cs) =
        (rounds level (soFar (ps.reverse ++ items))).run stop cs := by
  induction ws generalizing items with
  | nil => exact ⟨[], List.forall_mem_nil _, .nil, rfl⟩
  | cons w ws ih =>
    obtain ⟨hw, hws⟩ := List.forall_mem_cons.1 hws
    have hhead : (ws.flatMap written ++ cs).head? ≠ some '?' := by
      cases ws with
      | nil => exact hcs
      | cons w' ws =>
        rw [List.flatMap_cons, List.append_assoc]
        exact head?_written w' _
    obtain ⟨p, hdepth, hp, hrun⟩ := run_written hw level stop items hhead
    obtain ⟨ps, hdepths, hps, hruns⟩ := ih hws (p :: items)
    refine ⟨p :: ps, List.forall_mem_cons.2 ⟨hdepth, hdepths⟩, .cons hp hps, ?_⟩
    rw [List.flatMap_cons, List.append_assoc, hrun, hruns, List.reverse_cons, List.append_assoc]
    rfl

end

/-! ### Whole expressions -/

theorem foldl_max_le {ps : List Piece} {m n : Nat} (hm : m ≤ n) (h : ∀ p ∈ ps, p.depth ≤ n) :
    (ps.map Piece.depth).foldl max m ≤ n := by
  induction ps generalizing m with
  | nil => exact hm
  | cons p ps ih =>
    obtain ⟨hp, hps⟩ := List.forall_mem_cons.1 h
    exact ih (max_le hm hp) hps

theorem joinedDepth_le {ps : List Piece} {n : Nat} (h : ∀ p ∈ ps, p.depth ≤ n) : Piece.joinedDepth ps ≤ n + 1 := by
  have hdeepest := foldl_max_le (Nat.zero_le n) h
  rw [Piece.joinedDepth]
  split
  · exact Nat.le_succ_of_le hdeepest
  · exact Nat.succ_le_succ hdeepest

/-- What an anchored expression with some parts is read as. -/
def anchoredPieces (ps : List Piece) : List Piece :=
  .modes :: .leaf (.look .textStart) :: (ps ++ [.leaf (.look .textEnd)])

theorem depth_anchoredPieces {ps : List Piece} (h : ∀ p ∈ ps, p.depth ≤ 2) :
    (Piece.choice [.sequence (anchoredPieces ps)]).depth ≤ nestingLimit := by
  have hitem : ∀ p ∈ anchoredPieces ps, p.depth ≤ 2 := by
    intro p hp
    simp only [anchoredPieces, List.mem_cons, List.mem_append, List.not_mem_nil, or_false] at hp
    obtain rfl | rfl | hp | rfl := hp
    · exact Nat.zero_le _
    · exact Nat.zero_le _
    · exact h p hp
    · exact Nat.zero_le _
  have hsequence : (Piece.sequence (anchoredPieces ps)).depth ≤ 3 := joinedDepth_le hitem
  have hchoice := joinedDepth_le (List.forall_mem_singleton.2 hsequence)
  exact Nat.le_trans hchoice (by decide)

/-- The reader takes an anchored expression to its end. -/
theorem run_anchored {ws : List Wildcard} (hws : ∀ w ∈ ws, w.Readable) :
    ∃ ps : List Piece, (∀ p ∈ ps, p.depth ≤ 2) ∧ List.Forall₂ StandsFor (ps.map Piece.pattern) ws ∧
      (alternation (nestingLimit + 1) (.initial false) []).run 0 (anchored (ws.flatMap written)) =
        (.ok (Piece.choice [.sequence (anchoredPieces ps)], []), []) := by
  have hend : ['$'].head? ≠ some '?' := by decide
  obtain ⟨ps, hdepths, hps, hparts⟩ := run_flatMap_written hws nestingLimit 0 [.leaf (.look .textStart), .modes] hend
  refine ⟨ps, hdepths, hps, ?_⟩
  -- the parts are gathered in reverse
  let items : List Piece := .leaf (.look .textEnd) :: (ps.reverse ++ [.leaf (.look .textStart), .modes])
  have hitems : items.reverse = anchoredPieces ps := by
    simp only [items, anchoredPieces, List.reverse_cons, List.reverse_append, List.reverse_nil, List.nil_append,
      List.cons_append, List.reverse_reverse]
  have hrounds : (rounds nestingLimit start).run 0 (anchored (ws.flatMap written)) = (.ok (soFar items), []) := by
    have htext : anchored (ws.flatMap written) = "(?s)".toList ++ '^' :: (ws.flatMap written ++ ['$']) := by
      exact List.append_assoc ['(', '?', 's', ')', '^'] _ _
    rw [htext, run_rounds_start, run_rounds_caret, hparts, run_rounds_dollar]
    exact run_loop_of_none rfl
  rw [alternation, ← hitems]
  show (rounds nestingLimit start >>= _).run 0 _ = _
  rw [run_bind_ok hrounds]
  rfl

/-- The expression for some wildcards is read as their parts between the ends of the text. -/
theorem read?_anchored {ws : List Wildcard} (hws : ∀ w ∈ ws, w.Readable) :
    ∃ ps, List.Forall₂ StandsFor ps ws ∧
      Pattern.read? false (anchored (ws.flatMap written)) =
        some (.sequence (.empty :: .look .textStart :: (ps ++ [.look .textEnd]))) := by
  obtain ⟨ps, hdepths, hps, hread⟩ := run_anchored hws
  refine ⟨ps.map Piece.pattern, hps, ?_⟩
  rw [Pattern.read?, hread]
  dsimp only
  rw [if_pos (depth_anchoredPieces hdepths)]
  show some (Pattern.sequence _) = _
  simp only [anchoredPieces, Piece.modes, Piece.leaf, List.map_cons, List.map_append, List.map_nil]

/-- A whole expression within the size limit is found in exactly the texts that the wildcards accept. -/
theorem regexMatch_anchored {options : Options} {ws : List Wildcard} (hws : ∀ w ∈ ws, w.Readable)
    (hfits : ∀ p, Pattern.read? false (anchored (ws.flatMap written)) = some p →
      p.fits options.patternSizeLimit = true) (text : String) :
    regexMatch options false text (anchored (ws.flatMap written)) = .ok (accepts ws text.toList) := by
  obtain ⟨ps, hps, hread⟩ := read?_anchored hws
  rw [regexMatch, hread, Option.filter_some, if_pos (hfits _ hread)]
  show Except.ok _ = _
  rw [isFoundIn_anchored hps]

end Regex

end SqlFormula
