import Mathlib
import SqlFormula.Eval.PatternOperators
import SqlFormula.Proofs.Reader
import SqlFormula.Proofs.Regex.Wildcard

/-!
# Reading classes

A class of a pattern is written as a class of a regular expression, member by member. The two agree on what they mean as
long as no two hyphens follow one another, which a regular expression takes for an operation on sets.

## Main definitions

- `Wildcard.ascends` — every range of a class has its ends in order

## Main statements

- `Regex.run_bracket` — what is read for a class has the characters of the class
-/

namespace SqlFormula

namespace Wildcard

/-- Every range of a class has its ends in order. -/
def ascends : List Char → Bool
  | first :: '-' :: last :: rest => first ≤ last && ascends rest
  | _ :: rest => ascends rest
  | [] => true

end Wildcard

namespace Regex

open Reader Wildcard

/-- The modes after `(?s)`. -/
def wholeFlags : Flags :=
  { Flags.initial false with dotAll := true }

theorem mem_unions (c : Char) (sets : List CharSet) : (CharSet.unions sets).mem c = sets.any (CharSet.mem c) := by
  induction sets with
  | nil =>
    show (decide (1 ≤ c.toNat) && decide (c.toNat ≤ 0)) = false
    cases c.toNat <;> simp
  | cons s sets ih =>
    show (s.mem c || (CharSet.unions sets).mem c) = _
    rw [ih, List.any_cons]

theorem mem_range (c first last : Char) :
    (CharSet.range first.toNat last.toNat).mem c = (first ≤ c && c ≤ last) :=
  rfl

theorem mem_char (c d : Char) : (CharSet.char d).mem c = (c == d) := by
  rw [CharSet.char, mem_range, Bool.eq_iff_iff, Bool.and_eq_true, decide_eq_true_iff, decide_eq_true_iff, beq_iff_eq]
  constructor
  · rintro ⟨hle, hge⟩
    exact le_antisymm hge hle
  · rintro rfl
    exact ⟨le_rfl, le_rfl⟩

/-! ### Members -/

/-- How a member is written: with a character that opens it and has no other meaning in a class. -/
structure Opens (head : Char) (tail : List Char) (c : Char) : Prop where
  written : SqlFormula.classMember c = head :: tail
  plain : head ≠ ']' ∧ head ≠ '[' ∧ head ≠ '&' ∧ head ≠ '~'
  same : head ≠ '\\' → head = c
  read : ∀ stop cs, (classMember wholeFlags head).run stop (tail ++ cs) = (.ok (.literal c false), cs)

theorem exists_opens (c : Char) : ∃ head tail, Opens head tail c := by
  by_cases h : "\\[]&~".toList.contains c = true
  · have hc : c = '\\' ∨ c = '[' ∨ c = ']' ∨ c = '&' ∨ c = '~' := by simpa using h
    refine ⟨'\\', [c], by rw [SqlFormula.classMember, if_pos h], by decide, fun hne => absurd rfl hne, ?_⟩
    rcases hc with rfl | rfl | rfl | rfl | rfl <;> exact fun _ _ => rfl
  · have hne : c ≠ '\\' ∧ c ≠ '[' ∧ c ≠ ']' ∧ c ≠ '&' ∧ c ≠ '~' := by simpa using h
    refine ⟨c, [], by rw [SqlFormula.classMember, if_neg h], by tauto, fun _ => rfl, ?_⟩
    intro stop cs
    rw [classMember, if_neg hne.1]
    rfl

theorem Opens.hyphen {head : Char} {tail : List Char} {c : Char} (h : Opens head tail c) : head = '-' ↔ c = '-' := by
  constructor
  · rintro rfl
    exact (h.same (by decide)).symm
  · rintro rfl
    exact (List.cons.inj h.written).1.symm

/-- The members of a class from some place on, and what follows. -/
def classText (members cs : List Char) : List Char :=
  members.flatMap SqlFormula.classMember ++ ']' :: cs

theorem classText_cons {head : Char} {tail : List Char} {c : Char} (h : Opens head tail c) (members cs : List Char) :
    classText (c :: members) cs = head :: (tail ++ classText members cs) := by
  rw [classText, List.flatMap_cons, h.written]
  simp [classText]

theorem head?_classText {members cs : List Char} {d : Char} (hd : d ≠ ']' ∧ d ≠ '\\')
    (h : (classText members cs).head? = some d) : members.head? = some d := by
  cases members with
  | nil => exact absurd (Option.some.inj h).symm hd.1
  | cons c members =>
    obtain ⟨head, tail, hopens⟩ := exists_opens c
    rw [classText_cons hopens] at h
    obtain rfl : head = d := Option.some.inj h
    rw [hopens.same hd.2]
    rfl

/-- A hyphen makes a range only between two members. -/
theorem isRangeAhead_classText {members : List Char} (cs : List Char) (h : ¬['-', '-'] <:+: members) :
    isRangeAhead wholeFlags (classText members cs) = true ↔ ∃ last rest, members = '-' :: last :: rest := by
  cases members with
  | nil => simp [classText, isRangeAhead]
  | cons c members =>
    by_cases hc : c = '-'
    · subst hc
      have htext : classText ('-' :: members) cs = '-' :: classText members cs := rfl
      have hplain : (if wholeFlags.verbose then dropVerbose (classText members cs) else classText members cs) =
          classText members cs := rfl
      rw [htext, isRangeAhead.eq_1, hplain]
      cases members with
      | nil => simp [classText]
      | cons last rest =>
        have hlast : last ≠ '-' := by
          rintro rfl
          exact h ⟨[], rest, rfl⟩
        obtain ⟨head, tail, hopens⟩ := exists_opens last
        rw [classText_cons hopens]
        have hhead : head ≠ '-' := fun hhyphen => hlast (hopens.hyphen.1 hhyphen)
        -- what follows the hyphen is neither the closing bracket nor another hyphen
        simp [hopens.plain.1, hhead]
    · obtain ⟨head, tail, hopens⟩ := exists_opens c
      have hhead : head ≠ '-' := fun hhyphen => hc (hopens.hyphen.1 hhyphen)
      rw [classText_cons hopens, isRangeAhead.eq_2 _ _ fun rest heq => hhead (List.cons.inj heq).1]
      simp [hc]

section

variable {stop : Nat} {cs : List Char} {inner : RegexReader (CharSet × Nat)} {sets : List CharSet}
  {head : Char} {tail : List Char} {c : Char}

theorem run_gap : (gap wholeFlags).run stop cs = (.ok (), cs) :=
  rfl

/-- A hyphen is a member of its own where no second one follows. -/
theorem run_isDoubled (h : Opens head tail c) (hnext : c = '-' → cs.head? ≠ some '-') :
    (isDoubled head).run stop (tail ++ cs) = (.ok false, tail ++ cs) := by
  by_cases hc : c = '-'
  · subst hc
    obtain ⟨rfl, rfl⟩ : '-' = head ∧ [] = tail := List.cons.inj h.written
    show (eat '-').run stop cs = (.ok false, cs)
    rw [eat, run_peek?_bind, if_neg (hnext rfl)]
    rfl
  · have hhead : head ≠ '-' := fun hhyphen => hc (h.hyphen.1 hhyphen)
    have hcontains : ¬"&-~".toList.contains head = true := by simpa using ⟨h.plain.2.2.1, hhead, h.plain.2.2.2⟩
    rw [isDoubled, if_neg hcontains]
    rfl

/-- A round reads what stands at the front, unless that has a meaning of its own. -/
theorem run_classStep (h : Opens head tail c) (hnext : c = '-' → cs.head? ≠ some '-') :
    (classStep wholeFlags inner head (.ofSets sets)).run stop (head :: (tail ++ cs)) =
      (classItem wholeFlags head >>= fun s => pure (.ofSets (s :: sets))).run stop (tail ++ cs) := by
  have hskip : (skip 1 : RegexReader Unit).run stop (head :: (tail ++ cs)) = (.ok (), tail ++ cs) := rfl
  rw [classStep, run_bind_ok hskip]
  show ((if head = '[' then _ else _ : RegexReader ClassSoFar)).run stop (tail ++ cs) = _
  rw [if_neg h.plain.2.1, run_bind_ok (run_isDoubled h hnext)]
  rfl

theorem run_classItem_member (h : Opens head tail c) (hrange : isRangeAhead wholeFlags cs = false) :
    (classItem wholeFlags head).run stop (tail ++ cs) = (.ok (.char c), cs) := by
  rw [classItem, run_bind_ok (h.read stop cs), run_bind_ok run_gap, run_bind_ok run_ahead, hrange]
  rfl

theorem run_classItem_range {head' : Char} {tail' : List Char} {last : Char} (h : Opens head tail c)
    (h' : Opens head' tail' last) (hrange : isRangeAhead wholeFlags ('-' :: head' :: (tail' ++ cs)) = true)
    (hle : c ≤ last) :
    (classItem wholeFlags head).run stop (tail ++ '-' :: head' :: (tail' ++ cs)) =
      (.ok (.range c.toNat last.toNat), cs) := by
  have hskip : (skip 1 : RegexReader Unit).run stop ('-' :: head' :: (tail' ++ cs)) =
      (.ok (), head' :: (tail' ++ cs)) := rfl
  have hnext : anyChar.run stop (head' :: (tail' ++ cs)) = (.ok head', tail' ++ cs) := rfl
  rw [classItem, run_bind_ok (h.read stop _), run_bind_ok run_gap, run_bind_ok run_ahead, if_pos hrange,
    run_bind_ok hskip, run_bind_ok run_gap, run_bind_ok hnext, run_bind_ok (h'.read stop cs)]
  show (if c ≤ last then _ else _ : RegexReader CharSet).run stop cs = _
  rw [if_pos hle]
  rfl

/-- The rounds of the reader of a class. -/
def classRounds (level : Nat) (sofar : ClassSoFar) : RegexReader ClassSoFar :=
  loop (fun cs => cs.head?.filter (· != ']')) (classStep wholeFlags (bracket wholeFlags level))
    (consuming_classStep wholeFlags _) sofar

theorem run_classRounds_cons {level : Nat} {s : CharSet} {rest : List Char} (h : Opens head tail c)
    (hnext : c = '-' → cs.head? ≠ some '-')
    (hitem : (classItem wholeFlags head).run stop (tail ++ cs) = (.ok s, rest)) :
    (classRounds level (.ofSets sets)).run stop (head :: (tail ++ cs)) =
      (classRounds level (.ofSets (s :: sets))).run stop rest := by
  refine run_loop_step (List.cons_ne_nil _ _) (b := head) ?_ ?_
  · simpa using h.plain.1
  · rw [run_classStep h hnext, run_bind_ok hitem]
    rfl

/-- All members are read, one after the other, up to the bracket that closes the class. -/
theorem run_classRounds {members : List Char} (hascends : ascends members = true) (hdouble : ¬['-', '-'] <:+: members)
    (level stop : Nat) (cs : List Char) (sets : List CharSet) :
    ∃ sets', (classRounds level (.ofSets sets)).run stop (classText members cs) = (.ok (.ofSets sets'), ']' :: cs) ∧
      ∀ d, sets'.any (CharSet.mem d) = (sets.any (CharSet.mem d) || isMember d members) := by
  induction members using ascends.induct generalizing sets with
  | case1 first last rest ih =>
    -- a range: the hyphen stands between two members, neither of which is a hyphen
    rw [ascends, Bool.and_eq_true, decide_eq_true_iff] at hascends
    have hfirst : first ≠ '-' := by
      rintro rfl
      exact hdouble ⟨[], last :: rest, rfl⟩
    have htail : ¬['-', '-'] <:+: '-' :: last :: rest := fun h => hdouble (List.infix_cons h)
    have hrest : ¬['-', '-'] <:+: rest := fun h => htail (List.infix_cons (List.infix_cons h))
    obtain ⟨head, tail, h⟩ := exists_opens first
    obtain ⟨head', tail', h'⟩ := exists_opens last
    have hrange : isRangeAhead wholeFlags (classText ('-' :: last :: rest) cs) = true :=
      (isRangeAhead_classText cs htail).2 ⟨last, rest, rfl⟩
    have htext : classText ('-' :: last :: rest) cs = '-' :: head' :: (tail' ++ classText rest cs) := by
      rw [← classText_cons h']
      rfl
    rw [htext] at hrange
    obtain ⟨sets', hrun, hmem⟩ := ih hascends.2 hrest (.range first.toNat last.toNat :: sets)
    refine ⟨sets', ?_, fun d => ?_⟩
    · rw [classText_cons h, htext,
        run_classRounds_cons h (fun heq => absurd heq hfirst) (run_classItem_range h h' hrange hascends.1), hrun]
    · rw [hmem, List.any_cons, mem_range, isMember, Bool.or_left_comm, Bool.or_assoc]
  | case2 c rest hsingle ih =>
    -- a member of its own: what follows makes no range of it
    have hrest : ¬['-', '-'] <:+: rest := fun h => hdouble (List.infix_cons h)
    have hascends' : ascends rest = true := by rwa [ascends.eq_2 _ _ hsingle] at hascends
    obtain ⟨head, tail, h⟩ := exists_opens c
    have hrange : isRangeAhead wholeFlags (classText rest cs) = false := by
      rw [Bool.eq_false_iff, Ne, isRangeAhead_classText cs hrest]
      rintro ⟨last, rest', rfl⟩
      exact hsingle last rest' rfl
    have hnext : c = '-' → (classText rest cs).head? ≠ some '-' := by
      rintro rfl hhead
      obtain ⟨rest', rfl⟩ : ∃ rest', rest = '-' :: rest' :=
        ⟨rest.tail, (List.cons_head?_tail (head?_classText (by decide) hhead)).symm⟩
      exact hdouble ⟨[], rest', rfl⟩
    obtain ⟨sets', hrun, hmem⟩ := ih hascends' hrest (.char c :: sets)
    refine ⟨sets', ?_, fun d => ?_⟩
    · rw [classText_cons h, run_classRounds_cons h hnext (run_classItem_member h hrange), hrun]
    · rw [hmem, List.any_cons, mem_char, isMember.eq_2 _ _ _ hsingle, Bool.or_left_comm, Bool.or_assoc]
  | case3 =>
    refine ⟨sets, run_loop_of_none rfl, fun d => ?_⟩
    rw [isMember, Bool.or_false]

theorem run_eat_of_ne {d : Char} (h : cs.head? ≠ some d) : (eat d).run stop cs = (.ok false, cs) := by
  rw [eat, run_peek?_bind, if_neg h]
  rfl

theorem run_leadingHyphens (h : cs.head? ≠ some '-') : (leadingHyphens wholeFlags).run stop cs = (.ok [], cs) :=
  run_loop_of_none (if_neg h)

theorem run_leadingHyphens_hyphen (h : cs.head? ≠ some '-') :
    (leadingHyphens wholeFlags).run stop ('-' :: cs) = (.ok [.char '-'], cs) :=
  (run_loop_step (List.cons_ne_nil _ _) (if_pos rfl) rfl).trans (run_loop_of_none (if_neg h))

/-- The beginning of a class: `^` if it is denied, and a hyphen that is its first member. -/
theorem run_classStart {negated : Bool} {members : List Char} (hne : members ≠ [])
    (hmark : negated = false → members.head? ≠ some '^') (hascends : ascends members = true)
    (hdouble : ¬['-', '-'] <:+: members) (stop : Nat) (cs : List Char) :
    ∃ sets rest, (classStart wholeFlags).run stop ((if negated then ['^'] else []) ++ classText members cs) =
        (.ok (negated, .ofSets sets), classText rest cs) ∧
      ascends rest = true ∧ ¬['-', '-'] <:+: rest ∧
      ∀ d, isMember d members = (sets.any (CharSet.mem d) || isMember d rest) := by
  have heat : (eat '^').run stop ((if negated then ['^'] else []) ++ classText members cs) =
      (.ok negated, classText members cs) := by
    cases negated with
    | true => rfl
    | false => exact run_eat_of_ne fun h => hmark rfl (head?_classText (by decide) h)
  rw [classStart, run_bind_ok run_gap, run_bind_ok heat, run_bind_ok run_gap]
  by_cases hhyphen : members.head? = some '-'
  · -- a hyphen in front is a member, and the rest does not begin with another one
    obtain ⟨rest, rfl⟩ : ∃ rest, members = '-' :: rest := ⟨members.tail, (List.cons_head?_tail hhyphen).symm⟩
    have hhead : rest.head? ≠ some '-' := fun h => hdouble ⟨[], rest.tail, by rw [← List.cons_head?_tail h]; rfl⟩
    have hsingle (last : Char) (rest' : List Char) (h : rest = '-' :: last :: rest') : False :=
      hhead (by rw [h]; rfl)
    refine ⟨[.char '-'], rest, ?_, ?_, fun h => hdouble (List.infix_cons h), fun d => ?_⟩
    · show (leadingHyphens wholeFlags >>= _).run stop ('-' :: classText rest cs) = _
      rw [run_bind_ok (run_leadingHyphens_hyphen fun h => hhead (head?_classText (by decide) h))]
      rfl
    · rwa [ascends.eq_2 _ _ hsingle] at hascends
    · rw [isMember.eq_2 _ _ _ hsingle, List.any_cons, List.any_nil, Bool.or_false, mem_char]
  · refine ⟨[], members, ?_, hascends, hdouble, fun d => rfl⟩
    -- in front of the members, a closing bracket would be one of them
    have hclosed : (classText members cs).head? ≠ some ']' := by
      obtain ⟨c, rest, rfl⟩ := List.exists_cons_of_ne_nil hne
      obtain ⟨head, tail, h⟩ := exists_opens c
      rw [classText_cons h]
      exact fun heq => h.plain.1 (Option.some.inj heq)
    rw [run_bind_ok (run_leadingHyphens fun h => hhyphen (head?_classText (by decide) h))]
    show (eat ']' >>= _).run stop (classText members cs) = _
    rw [run_bind_ok (run_eat_of_ne hclosed)]
    rfl

/-- What is read for a class has the characters of the class. -/
theorem run_bracket {negated : Bool} {members : List Char} (hne : members ≠ [])
    (hmark : negated = false → members.head? ≠ some '^') (hascends : ascends members = true)
    (hdouble : ¬['-', '-'] <:+: members) (level stop : Nat) (cs : List Char) :
    ∃ s depth, (bracket wholeFlags (level + 1)).run stop ((if negated then ['^'] else []) ++ classText members cs) =
        (.ok (s, depth), cs) ∧
      depth ≤ 2 ∧ ∀ c, s.mem c = (isMember c members != negated) := by
  obtain ⟨sets, rest, hstart, hascends', hdouble', hmem⟩ := run_classStart hne hmark hascends hdouble stop cs
  obtain ⟨sets', hrounds, hmem'⟩ := run_classRounds hascends' hdouble' level stop cs sets
  refine ⟨foldAndNegate wholeFlags negated (CharSet.unions sets'.reverse),
    (ClassSoFar.ofSets sets').totalDepth + 1, ?_, ?_, fun c => ?_⟩
  · rw [bracket, run_bind_ok hstart]
    show (classRounds level (.ofSets sets) >>= _).run stop (classText rest cs) = _
    rw [run_bind_ok hrounds]
    cases negated <;> rfl
  · show (if sets'.length < 2 then 0 else 1) + 1 ≤ 2
    split <;> decide
  · have hunions : (CharSet.unions sets'.reverse).mem c = isMember c members := by
      rw [mem_unions, List.any_reverse, hmem', hmem]
    cases negated with
    | true =>
      show (!(CharSet.unions sets'.reverse).mem c) = _
      rw [hunions, Bool.bne_true]
    | false =>
      show (CharSet.unions sets'.reverse).mem c = _
      rw [hunions, Bool.bne_false]

end

end Regex

end SqlFormula
