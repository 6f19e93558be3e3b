import SqlFormula.Parse
import SqlFormula.Proofs.Parse.Alongside.Statement

/-!
# Batches of statements

Two texts with a semicolon between them on a line of its own are read like the texts themselves, one after the other.
The statements of the second text are counted on from those of the first, and its errors stand further on.

## Main definitions

- `Parser.sequence` — reading the statements that are left

## Main statements

- `Parser.Relocation.sequence_far` — a sequence of statements in front of a semicolon, or further on
- `Parser.exists_of_run_sequence_error`, `Parser.sequence_error_alone` — the statement that is wrong, and the ones before
- `parseStatements_batch` — the statements of two texts
-/

namespace SqlFormula

namespace Parser

open Reader

/-- Reads the further statements of a sequence. The last statement comes first in the list. -/
def sequence (read : List Statement) : Parser (List Statement) :=
  loop List.head? sequenceStep consuming_sequenceStep read

variable {stop : Nat} {t : Token} {ts rest : List Token} {read : List Statement}

theorem run_sequence_nil (stop : Nat) (read : List Statement) : (sequence read).run stop [] = (.ok read, []) :=
  run_loop_of_none rfl

/-- A superfluous semicolon is passed over. -/
theorem run_sequence_semicolon (ht : t.isSymbol ";" = true) (stop : Nat) (ts : List Token) (read : List Statement) :
    (sequence read).run stop (t :: ts) = (sequence read).run stop ts := by
  refine run_loop_step (List.cons_ne_nil t ts) rfl ?_
  rw [sequenceStep, if_pos ht]
  rfl

theorem run_sequence_statement {s : Statement} (ht : t.isSymbol ";" = false)
    (h : (sequenceItem read.length t).run stop (t :: ts) = (.ok s, rest)) :
    (sequence read).run stop (t :: ts) = (sequence (s :: read)).run stop rest := by
  refine run_loop_step (List.cons_ne_nil t ts) rfl ?_
  rw [sequenceStep, ht, if_neg (by decide), run_bind_ok h]
  rfl

theorem run_sequence_error {e : ParseError} (ht : t.isSymbol ";" = false)
    (h : (sequenceItem read.length t).run stop (t :: ts) = (.error e, rest)) :
    (sequence read).run stop (t :: ts) = (.error e, rest) := by
  refine run_loop_error (List.cons_ne_nil t ts) rfl ?_
  rw [sequenceStep, ht, if_neg (by decide), run_bind_error h]

theorem run_sequenceItem_ok {s : Statement} {left : List Token} (hs : (statementFrom t).run stop ts = (.ok s, rest))
    (hend : endOfStatement.run stop rest = (.ok (), left)) (index : Nat) :
    (sequenceItem index t).run stop ts = (.ok s, left) := by
  rw [sequenceItem]
  refine run_mapError_ok ?_ _
  rw [run_bind_ok hs, run_bind_ok hend]
  rfl

theorem run_sequenceItem_error {e : ParseError} (hs : (statementFrom t).run stop ts = (.error e, rest)) (index : Nat) :
    (sequenceItem index t).run stop ts = (.error (.inStatement index e), rest) :=
  run_mapError_error (run_bind_error hs _) _

theorem run_sequenceItem_endError {s : Statement} {e : ParseError} {left : List Token}
    (hs : (statementFrom t).run stop ts = (.ok s, rest)) (hend : endOfStatement.run stop rest = (.error e, left))
    (index : Nat) : (sequenceItem index t).run stop ts = (.error (.inStatement index e), left) := by
  rw [sequenceItem]
  refine run_mapError_error ?_ _
  rw [run_bind_ok hs, run_bind_error hend]

/-- A statement takes at least one token. -/
theorem length_lt_of_sequenceItem {s : Statement} {index : Nat}
    (h : (sequenceItem index t).run stop (t :: ts) = (.ok s, rest)) : rest.length < (t :: ts).length := by
  have hconsuming : (sequenceItem index t).Consuming := ((consuming_statementFrom t).bind_left _).mapError _
  have hlt := hconsuming stop (t :: ts) s (List.cons_ne_nil t ts) (by rw [h])
  rwa [h] at hlt

theorem run_endOfStatement (stop : Nat) (t : Token) (ts : List Token) : endOfStatement.run stop (t :: ts) =
    if t.isSymbol ";" then (.ok (), ts) else (.error (unexpected t "';' or end of input"), t :: ts) := by
  rw [endOfStatement, run_peek?_bind, List.head?_cons]
  dsimp only
  split <;> rfl

theorem parseStatements_eq {text : String} (h : tokenize text = .ok ts) :
    parseStatements text = List.reverse <$> ((sequence []).run text.utf8ByteSize ts).1 := by
  rw [parseStatements, runOn, h]
  show (statements.run text.utf8ByteSize ts).1 = _
  rw [statements]
  show ((sequence [] >>= fun read => pure read.reverse : Parser _).run text.utf8ByteSize ts).1 = _
  generalize hrun : (sequence []).run text.utf8ByteSize ts = outcome
  obtain ⟨_ | read, rest⟩ := outcome
  · rw [run_bind_error hrun]
    rfl
  · rw [run_bind_ok hrun]
    rfl

/-! ### Statements in two texts -/

namespace Relocation

variable {r : Relocation}

/-- The outcomes for a statement with its end in both texts. The last statement of the first text can end with a
semicolon in the second. The second text has `n` statements more before it. -/
inductive ItemsAgree (r : Relocation) (index n : Nat) :
    Except ParseError Statement × List Token → Except ParseError Statement × List Token → Prop
  | before (s : Statement) (ts : List Token) : ItemsAgree r index n (.ok s, ts) (.ok s, r.far ts)
  | last (s : Statement) : ItemsAgree r index n (.ok s, []) (.ok s, r.tail.tail)
  | error {e far : ParseError} (h : r.SameError e far) (ts left : List Token) :
    ItemsAgree r index n (.error (.inStatement index e), ts) (.error (.inStatement (index + n) far), left)

/-- A statement that ends the first text ends with the semicolon in the second. -/
theorem run_endOfStatement_tail (hends : r.EndsStatement) :
    endOfStatement.run r.farStop r.tail = (.ok (), r.tail.tail) := by
  rcases r.tail_cases with htail | ⟨t, rest, htail, -⟩
  · rw [htail]
    rfl
  · rw [htail, run_endOfStatement, if_pos (hends t (by rw [htail]; rfl))]
    rfl

theorem sequenceItem_far (hends : r.EndsStatement) (index n : Nat) (t : Token) (ts : List Token) :
    ItemsAgree r index n ((sequenceItem index t).run r.stop (t :: ts))
      ((sequenceItem (index + n) (t.shift r.distance)).run r.farStop (r.far (t :: ts))) := by
  have h := at_statementFrom (r := r) t ts
  rw [At] at h
  generalize hnear : (statementFrom t).run r.stop (t :: ts) = near at h
  generalize hfar : (statementFrom (t.shift r.distance)).run r.farStop (r.far (t :: ts)) = far at h
  cases h with
  | ok s rest =>
    cases rest with
    | nil =>
      -- the end of the first text ends the statement, and in the second one a semicolon
      rw [run_sequenceItem_ok hnear rfl, run_sequenceItem_ok hfar (run_endOfStatement_tail hends)]
      exact .last s
    | cons u us =>
      have hend := run_endOfStatement r.stop u us
      have hend' := run_endOfStatement r.farStop (u.shift r.distance) (r.far us)
      rw [Token.isSymbol_shift] at hend'
      by_cases hu : u.isSymbol ";" = true
      · rw [if_pos hu] at hend hend'
        rw [run_sequenceItem_ok hnear hend, run_sequenceItem_ok hfar hend']
        exact .before s us
      · rw [if_neg hu] at hend hend'
        rw [run_sequenceItem_endError hnear hend, run_sequenceItem_endError hfar hend']
        exact .error (sameError_unexpected u _) _ _
  | error h =>
    obtain ⟨e', left, rfl, he⟩ := h hends
    rw [run_sequenceItem_error hnear, run_sequenceItem_error hfar]
    exact .error he _ _

/-- **A sequence of statements in two texts.** In the second text some statements come before it. What follows it there
is read next, after the semicolon. -/
theorem sequence_far (hends : r.EndsStatement) (before read : List Statement) (ts : List Token) :
    match (sequence read).run r.stop ts with
    | (.ok read', _) =>
      (sequence (read ++ before)).run r.farStop (r.far ts) = (sequence (read' ++ before)).run r.farStop r.tail.tail
    | (.error e, _) => ∃ index inner far left, e = .inStatement index inner ∧
        (sequence (read ++ before)).run r.farStop (r.far ts) =
          (.error (.inStatement (index + before.length) far), left) ∧ r.SameError inner far := by
  -- a statement takes several tokens, so the induction is on their number
  induction hlength : ts.length using Nat.strong_induction_on generalizing ts read with
  | _ n ih =>
    subst hlength
    cases ts with
    | nil =>
      rw [run_sequence_nil, far_nil]
      rcases r.tail_cases with htail | ⟨t, rest, htail, -⟩
      · rw [htail]
        rfl
      · rw [htail]
        exact run_sequence_semicolon (hends t (by rw [htail]; rfl)) _ _ _
    | cons t ts =>
      rw [far_cons]
      by_cases ht : t.isSymbol ";" = true
      · rw [run_sequence_semicolon ht, run_sequence_semicolon (t := t.shift r.distance) ht]
        exact ih ts.length (by simp) read ts rfl
      · rw [Bool.not_eq_true] at ht
        have hitem := sequenceItem_far hends read.length before.length t ts
        rw [← List.length_append] at hitem
        rw [far_cons] at hitem
        generalize hnear : (sequenceItem read.length t).run r.stop (t :: ts) = near at hitem
        generalize hfar : (sequenceItem (read ++ before).length (t.shift r.distance)).run r.farStop
          (t.shift r.distance :: r.far ts) = far at hitem
        cases hitem with
        | before s rest =>
          rw [run_sequence_statement ht hnear, run_sequence_statement (t := t.shift r.distance) ht hfar]
          exact ih rest.length (length_lt_of_sequenceItem hnear) (s :: read) rest rfl
        | last s =>
          rw [run_sequence_statement ht hnear, run_sequence_statement (t := t.shift r.distance) ht hfar, run_sequence_nil]
          rfl
        | error he rest left =>
          rw [run_sequence_error ht hnear, run_sequence_error (t := t.shift r.distance) ht hfar]
          exact ⟨_, _, _, left, rfl, rfl, he⟩

end Relocation

end Parser

namespace Parser.Relocation

/-- A text in front of a semicolon and another text, which ends at a byte offset. -/
def beforeSemicolon (a : String) (farStop : Nat) (us : List Token) : Relocation where
  stop := a.utf8ByteSize
  farStop := farStop
  distance := 0
  tail := { kind := .symbol, text := ";", offset := a.utf8ByteSize + 1 } :: us
  boundary := by
    rintro t ⟨⟩
    exact .inl rfl
  farStop_eq := nofun

theorem far_beforeSemicolon (a : String) (farStop : Nat) (ts us : List Token) : (beforeSemicolon a farStop us).far ts =
    ts ++ { kind := .symbol, text := ";", offset := a.utf8ByteSize + 1 } :: us := by
  have hshift : ts.map (Token.shift 0) = ts := List.map_id ts
  exact congrArg (· ++ _) hshift

/-- The end of a text that ends at a byte offset as a text of its own. -/
def atEnd (stop distance : Nat) : Relocation where
  stop := stop
  farStop := stop + distance
  distance := distance
  tail := []
  boundary := nofun
  farStop_eq := fun _ => rfl

theorem farStop_atEnd (stop distance : Nat) : (atEnd stop distance).farStop = stop + distance :=
  rfl

theorem far_atEnd (stop distance : Nat) (ts : List Token) :
    (atEnd stop distance).far ts = ts.map (Token.shift distance) :=
  List.append_nil _

end Parser.Relocation

/-! ### The statements in front of a wrong one -/

namespace Parser

open Reader

variable {stop : Nat} {t : Token} {ts rest left : List Token} {s : Statement} {e : ParseError}

namespace Relocation

/-- Tokens of their own, and the same tokens in front of a semicolon. -/
def upTo (semicolon : Token) (h : semicolon.isSymbol ";" = true) (farStop : Nat) (rest : List Token) : Relocation where
  stop := 0
  farStop := farStop
  distance := 0
  tail := semicolon :: rest
  boundary := by
    rintro t ⟨⟩
    exact .inl h
  farStop_eq := nofun

theorem far_upTo {semicolon : Token} (h : semicolon.isSymbol ";" = true) (farStop : Nat) (ts : List Token) :
    (upTo semicolon h farStop rest).far ts = ts ++ semicolon :: rest := by
  have hshift : ts.map (Token.shift 0) = ts := List.map_id ts
  exact congrArg (· ++ _) hshift

end Relocation

open Relocation

theorem agree_upTo {semicolon : Token} (h : semicolon.isSymbol ";" = true) (t : Token) (ts : List Token) (stop : Nat)
    (rest : List Token) : (upTo semicolon h stop rest).Agree ((statementFrom t).run 0 (t :: ts))
      ((statementFrom t).run stop (t :: ts ++ semicolon :: rest)) := by
  have hat := at_statementFrom (r := upTo semicolon h stop rest) t ts
  rw [At, far_upTo] at hat
  exact hat

/-- Whatever follows the semicolon, the statement in front of it is read in the same way. -/
theorem run_statementFrom_upTo {semicolon : Token} (hsemicolon : semicolon.isSymbol ";" = true)
    (h : (statementFrom t).run stop (t :: ts ++ semicolon :: rest) = (.ok s, semicolon :: rest)) (stop' : Nat)
    (rest' : List Token) :
    (statementFrom t).run stop' (t :: ts ++ semicolon :: rest') = (.ok s, semicolon :: rest') := by
  -- it is the statement that the tokens are on their own
  have halone : (statementFrom t).run 0 (t :: ts) = (.ok s, []) := by
    have hagree := agree_upTo hsemicolon t ts stop rest
    rw [h] at hagree
    generalize (statementFrom t).run 0 (t :: ts) = near at hagree
    generalize hleft : semicolon :: rest = left at hagree
    cases hagree with
    | ok _ us =>
      rw [far_upTo] at hleft
      have hlength := congrArg List.length hleft
      rw [List.length_append, List.length_cons] at hlength
      obtain rfl := List.length_eq_zero_iff.1 (by omega : us.length = 0)
      rfl
    | error herror =>
      obtain ⟨far, far', heq, -⟩ := herror (by rintro t ⟨⟩; exact hsemicolon)
      cases heq
  have hagree := agree_upTo hsemicolon t ts stop' rest'
  rw [halone] at hagree
  generalize (statementFrom t).run stop' (t :: ts ++ semicolon :: rest') = far at hagree
  cases hagree
  rfl

/-- A statement in front of others is read in the same way whatever follows its end. -/
theorem exists_of_run_sequenceItem {index : Nat} (h : (sequenceItem index t).run stop (t :: ts) = (.ok s, left))
    (hleft : left ≠ []) : ∃ front, ts = front ++ left ∧ ∀ stop' left',
      (sequenceItem index t).run stop' (t :: front ++ left') = (.ok s, left') := by
  generalize hs : (statementFrom t).run stop (t :: ts) = outcome at h
  obtain ⟨e | s', rest⟩ := outcome
  · rw [run_sequenceItem_error hs] at h
    cases h
  generalize hend : endOfStatement.run stop rest = outcome at h
  obtain ⟨e | ⟨⟩, left'⟩ := outcome
  · rw [run_sequenceItem_endError hs hend] at h
    cases h
  rw [run_sequenceItem_ok hs hend] at h
  cases h
  cases rest with
  | nil =>
    cases hend
    exact absurd rfl hleft
  | cons semicolon rest =>
    rw [run_endOfStatement] at hend
    split at hend
    · next hsemicolon =>
      cases hend
      -- the statement takes its first word at least
      have hsuffix := (statementFrom t).suffix stop (t :: ts)
      have hlt := (consuming_statementFrom t) stop (t :: ts) s (List.cons_ne_nil t ts) (by rw [hs])
      rw [hs] at hsuffix hlt
      obtain heq | hsuffix := List.suffix_cons_iff.1 hsuffix
      · rw [heq] at hlt
        exact absurd hlt (Nat.lt_irrefl _)
      · obtain ⟨front, rfl⟩ := hsuffix
        refine ⟨front ++ [semicolon], by rw [List.append_assoc]; rfl, fun stop' left' => ?_⟩
        have hrun := run_statementFrom_upTo hsemicolon hs stop' left'
        have hend : endOfStatement.run stop' (semicolon :: left') = (.ok (), left') := by
          rw [run_endOfStatement, if_pos hsemicolon]
        have hitem := run_sequenceItem_ok hrun hend index
        rw [List.cons_append, List.append_assoc]
        exact hitem
    · cases hend

/-- **Where a sequence is wrong**: the tokens in front of the wrong statement are statements of their own, and it is
counted by their number. -/
theorem exists_of_run_sequence_error {read : List Statement} (h : (sequence read).run stop ts = (.error e, left)) :
    ∃ front t back before, ts = front ++ t :: back ∧ t.isSymbol ";" = false ∧
      (∀ stop', (sequence read).run stop' front = (.ok (before ++ read), [])) ∧
        (sequenceItem (before ++ read).length t).run stop (t :: back) = (.error e, left) := by
  induction hlength : ts.length using Nat.strong_induction_on generalizing ts read with
  | _ n ih =>
    subst hlength
    cases ts with
    | nil =>
      rw [run_sequence_nil] at h
      cases h
    | cons t ts =>
      by_cases ht : t.isSymbol ";" = true
      · rw [run_sequence_semicolon ht] at h
        obtain ⟨front, u, back, before, rfl, hu, hfront, hitem⟩ := ih ts.length (by simp) h rfl
        exact ⟨t :: front, u, back, before, rfl, hu, fun stop' => (run_sequence_semicolon ht _ _ _).trans (hfront stop'),
          hitem⟩
      · rw [Bool.not_eq_true] at ht
        generalize hitem : (sequenceItem read.length t).run stop (t :: ts) = outcome at h
        obtain ⟨e' | s, rest⟩ := outcome
        · rw [run_sequence_error ht hitem] at h
          cases h
          exact ⟨[], t, ts, [], rfl, ht, fun stop' => run_sequence_nil stop' read, hitem⟩
        · rw [run_sequence_statement ht hitem] at h
          -- something is left, or the sequence would be in order
          have hrest : rest ≠ [] := by
            rintro rfl
            rw [run_sequence_nil] at h
            cases h
          obtain ⟨taken, rfl, htaken⟩ := exists_of_run_sequenceItem hitem hrest
          obtain ⟨front, u, back, before, rfl, hu, hfront, hwrong⟩ :=
            ih rest.length (length_lt_of_sequenceItem hitem) h rfl
          refine ⟨t :: taken ++ front, u, back, before ++ [s], ?_, hu, fun stop' => ?_, ?_⟩
          · rw [List.cons_append, List.cons_append, List.append_assoc]
          · have hfirst := htaken stop' front
            rw [List.cons_append] at hfirst ⊢
            rw [run_sequence_statement ht hfirst, hfront stop', List.append_assoc]
            rfl
          · rw [List.append_assoc]
            exact hwrong

/-- A wrong statement is wrong in the same way where it comes first in a text of its own. -/
theorem sequence_error_alone {u : Token} {us : List Token} {d index : Nat} (hu : u.isSymbol ";" = false)
    (h : (sequenceItem index (u.shift d)).run (stop + d) ((u :: us).map (Token.shift d)) = (.error e, left)) :
    ∃ inner near left', e = .inStatement index inner ∧
      (sequence []).run stop (u :: us) = (.error (.inStatement 0 near), left') ∧ inner.name = near.name ∧
        inner.offset = near.offset + d := by
  have hagree := sequenceItem_far (r := atEnd stop d) nofun 0 index u us
  rw [far_atEnd, Nat.zero_add] at hagree
  change ItemsAgree _ 0 index _ ((sequenceItem index (u.shift d)).run (stop + d) _) at hagree
  rw [h] at hagree
  generalize hnear : (sequenceItem 0 u).run (atEnd stop d).stop (u :: us) = outcome at hagree
  cases hagree with
  | error hsame rest =>
    rw [Nat.zero_add]
    obtain ⟨hname, hoffset⟩ := hsame rfl
    exact ⟨_, _, rest, rfl, run_sequence_error hu hnear, hname, hoffset⟩

end Parser

open SqlFormula.Parser SqlFormula.Parser.Relocation in
/-- **A batch of statements.** If both texts are in order, the batch has the statements of the one followed by those of
the other. If only the second is wrong, the batch is wrong at the same statement, counted on, with the same kind of error
at the same token. If the first is wrong, the batch is wrong at the same statement. -/
theorem parseStatements_batch {a b : String} {ta tb : List Token} (ha : tokenize a = .ok ta)
    (hclosed : endsInComment a.toList = false) (hb : tokenize b = .ok tb) :
    match parseStatements a, parseStatements b with
    | .ok sa, .ok sb => parseStatements (a ++ "\n;" ++ b) = .ok (sa ++ sb)
    | .ok sa, .error e => ∃ i inner far, e = .inStatement i inner ∧
        parseStatements (a ++ "\n;" ++ b) = .error (.inStatement (sa.length + i) far) ∧ far.name = inner.name ∧
          far.offset = inner.offset + (a.utf8ByteSize + 2)
    | .error e, _ => ∃ i inner far, e = .inStatement i inner ∧
        parseStatements (a ++ "\n;" ++ b) = .error (.inStatement i far) := by
  have hsize : (a ++ "\n;" ++ b).utf8ByteSize = b.utf8ByteSize + (a.utf8ByteSize + 2) := by
    rw [String.utf8ByteSize_append, String.utf8ByteSize_append]
    show a.utf8ByteSize + 2 + b.utf8ByteSize = _
    omega
  have hbatch := parseStatements_eq (tokenize_batch ha hclosed hb)
  rw [hsize] at hbatch
  -- the first text stands in front of the semicolon, and the second one at the end
  have hfirst := sequence_far (r := beforeSemicolon a (b.utf8ByteSize + (a.utf8ByteSize + 2))
    (tb.map (Token.shift (a.utf8ByteSize + 2)))) (by rintro t ⟨⟩; rfl) [] [] ta
  have hsecond (sa : List Statement) := sequence_far (r := atEnd b.utf8ByteSize (a.utf8ByteSize + 2)) nofun sa [] tb
  rw [far_beforeSemicolon] at hfirst
  simp only [far_atEnd] at hsecond
  rw [parseStatements_eq ha, parseStatements_eq hb, hbatch]
  dsimp only [beforeSemicolon, atEnd, List.nil_append, List.append_nil, List.tail_cons] at hfirst hsecond
  generalize (sequence []).run a.utf8ByteSize ta = outcome at hfirst
  obtain ⟨_ | sa, rest⟩ := outcome
  · obtain ⟨i, inner, far, left, rfl, hrun, -⟩ := hfirst
    rw [hrun]
    exact ⟨i, inner, far, rfl, rfl⟩
  · have hsa := hsecond sa
    rw [hfirst, List.append_nil]
    generalize (sequence []).run b.utf8ByteSize tb = outcome at hsa
    obtain ⟨_ | sb, rest'⟩ := outcome
    · obtain ⟨i, inner, far, left, rfl, hrun, hsame⟩ := hsa
      have hlength : sa.reverse.length + i = i + sa.length := by rw [List.length_reverse, Nat.add_comm]
      obtain ⟨hname, hoffset⟩ := hsame rfl
      rw [hrun]
      refine ⟨i, inner, far, rfl, ?_, hname, hoffset⟩
      rw [hlength]
      rfl
    · rw [hsa, List.tail_nil, run_sequence_nil]
      exact congrArg Except.ok List.reverse_append

/-- The second statement of a batch breaks off. -/
theorem parseStatements_dropTables :
    tokenize "DROP TABLE t" = .ok [⟨.word, "DROP", 0⟩, ⟨.word, "TABLE", 5⟩, ⟨.word, "t", 11⟩] ∧
    endsInComment "DROP TABLE t".toList = false ∧
    tokenize "DROP TABLE" = .ok [⟨.word, "DROP", 0⟩, ⟨.word, "TABLE", 5⟩] ∧ ∃ far,
      parseStatements ("DROP TABLE t" ++ "\n;" ++ "DROP TABLE") = .error (.inStatement 1 far) ∧
      far.name = "UnexpectedEnd" ∧ far.offset = 24 := by
  have ha : tokenize "DROP TABLE t" = .ok [⟨.word, "DROP", 0⟩, ⟨.word, "TABLE", 5⟩, ⟨.word, "t", 11⟩] := by
    decide +kernel
  have hclosed : endsInComment "DROP TABLE t".toList = false := by decide +kernel
  have hb : tokenize "DROP TABLE" = .ok [⟨.word, "DROP", 0⟩, ⟨.word, "TABLE", 5⟩] := by decide +kernel
  have hfirst : List.length <$> parseStatements "DROP TABLE t" = .ok 1 := by decide +kernel
  have hsecond : List.length <$> parseStatements "DROP TABLE" =
      .error (.inStatement 0 (.unexpectedEnd "table name" 10)) := by decide +kernel
  have h := parseStatements_batch ha hclosed hb
  refine ⟨ha, hclosed, hb, ?_⟩
  cases hsa : parseStatements "DROP TABLE t" with
  | error e =>
    rw [hsa] at hfirst
    cases hfirst
  | ok sa =>
    cases hsb : parseStatements "DROP TABLE" with
    | ok sb =>
      rw [hsb] at hsecond
      cases hsecond
    | error e =>
      rw [hsa] at hfirst
      rw [hsb] at hsecond
      rw [hsa, hsb] at h
      cases hsecond
      obtain ⟨i, inner, far, heq, hbatch, hname, hoffset⟩ := h
      cases heq
      have hone : sa.length = 1 := Except.ok.inj hfirst
      rw [hone] at hbatch
      exact ⟨far, hbatch, hname, hoffset⟩

end SqlFormula
