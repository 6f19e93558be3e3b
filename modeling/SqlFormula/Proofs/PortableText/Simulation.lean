import Mathlib.Logic.Relation
import SqlFormula.Proofs.Entries
import SqlFormula.Proofs.PortableText.Machine
import SqlFormula.Proofs.PortableText.Parts

/-!
# The machine reads what the readers read

For each reader of portable text there is a task that does the same: from the beginning of the task the machine comes,
step by step, to the place at which the reader leaves off, and it stops with the errors of the reader.

## Main definitions

- `Reaches`, `Halts` — what a machine comes to
- `FollowsOn` — a machine does what a reader does with some characters

## Main statements

- `FollowsOn.bind`, `followsOn_loop` — readers one after the other, and repetition
- `followsInner_container` — arrays and objects, by induction on how many more may be nested
- `halts_document` — whole texts
-/

namespace SqlFormula.PortableText

open Reader
open Text (byteLength)

variable {α β : Type} {text rest : List Char} {k k' : Control} {c : Char} {cs : List Char}

/-! ### Places and runs -/

/-- A machine with the rest of a text in front of it. -/
def stateAt (text rest : List Char) (k : Control) : State :=
  { k with position := byteLength text - byteLength rest }

theorem step_stateAt (h : rest <:+ text) : step text (stateAt text rest k) = (stateAt text rest k).perform rest := by
  obtain ⟨before, rfl⟩ := h
  have hplace : (stateAt (before ++ rest) rest k).position = byteLength before := by
    simp only [stateAt, byteLength_append]
    omega
  rw [step, hplace, charactersFrom?_append]

/-- Taking characters leads to what follows them. -/
theorem move_stateAt {front : List Char} (h : front ++ rest <:+ text) (task : Task) (frames : List Frame) :
    (stateAt text (front ++ rest) k).move (byteLength front) task frames =
      .next (stateAt text rest { task, frames }) := by
  have hle := byteLength_le_of_suffix h
  rw [byteLength_append] at hle
  have hplace : byteLength text - byteLength (front ++ rest) + byteLength front = byteLength text - byteLength rest := by
    rw [byteLength_append]
    omega
  simp only [State.move, stateAt, hplace]

theorem move_one_stateAt (h : c :: cs <:+ text) (task : Task) (frames : List Frame) :
    (stateAt text (c :: cs) k).move c.utf8Size task frames = .next (stateAt text cs { task, frames }) := by
  have hsize : byteLength [c] = c.utf8Size := by
    rw [byteLength_cons]
    rfl
  have hmove : [c] ++ cs <:+ text := h
  rw [← hsize]
  exact move_stateAt hmove task frames

theorem take_stateAt (h : c :: cs <:+ text) (task : Task) :
    (stateAt text (c :: cs) k).take c task = .next (stateAt text cs { task, frames := k.frames }) :=
  move_one_stateAt h task k.frames

/-- A machine comes from one state to another one in some number of steps. -/
def Reaches (text : List Char) : State → State → Prop :=
  Relation.ReflTransGen fun s s' => step text s = .next s'

/-- A machine stops with a result. -/
def Halts (text : List Char) (s : State) (result : Except FormatError (String × Value)) : Prop :=
  ∃ s', Reaches text s s' ∧ step text s' = .halted result

theorem Reaches.halts {s s' : State} {result : Except FormatError (String × Value)} (h : Reaches text s s')
    (hhalts : Halts text s' result) : Halts text s result := by
  obtain ⟨last, hlast, hstep⟩ := hhalts
  exact ⟨last, h.trans hlast, hstep⟩

theorem Halts.exists_run {s : State} {result : Except FormatError (String × Value)} (h : Halts text s result) :
    ∃ n, run text n s = .halted result := by
  obtain ⟨last, hreaches, hlast⟩ := h
  induction hreaches using Relation.ReflTransGen.head_induction_on with
  | refl => exact ⟨1, by rw [run, hlast]⟩
  | head hstep _ ih =>
    obtain ⟨n, hn⟩ := ih
    exact ⟨n + 1, by rw [run, hstep]; exact hn⟩

/-! ### Machines and readers -/

/-- A machine comes to the place at which a reader leaves off, in a way that its result tells, or stops with its error. -/
def Follows (text : List Char) (s : State) (Q : α → List Char → Control → Prop) :
    Except FormatError α × List Char → Prop
  | (.ok a, rest) => ∃ k, Reaches text s (stateAt text rest k) ∧ Q a rest k
  | (.error e, _) => Halts text s (.error e)

/-- A machine does what a reader does with the rest of a text. -/
def FollowsOn (text rest : List Char) (k : Control) (p : PortableReader α) (Q : α → List Char → Control → Prop) : Prop :=
  rest <:+ text → Follows text (stateAt text rest k) Q (p.run (byteLength text) rest)

variable {p : PortableReader α} {f : α → PortableReader β} {P : α → List Char → Control → Prop}
  {Q : β → List Char → Control → Prop}

theorem Reaches.follows {s s' : State} {outcome : Except FormatError α × List Char} (h : Reaches text s s')
    (hfollows : Follows text s' P outcome) : Follows text s P outcome := by
  match outcome with
  | (.ok a, rest) =>
    obtain ⟨k, hk, hP⟩ := hfollows
    exact ⟨k, h.trans hk, hP⟩
  | (.error e, _) => exact h.halts hfollows

theorem followsOn_pure {a : α} (h : P a rest k) : FollowsOn text rest k (pure a) P :=
  fun _ => ⟨k, .refl, h⟩

theorem FollowsOn.bind (hp : FollowsOn text rest k p P)
    (hf : ∀ a rest' k', P a rest' k' → FollowsOn text rest' k' (f a) Q) : FollowsOn text rest k (p >>= f) Q := by
  intro hrest
  have hfollows := hp hrest
  have hsuffix := p.suffix (byteLength text) rest
  cases hrun : p.run (byteLength text) rest with
  | mk result middle =>
    rw [hrun] at hfollows hsuffix
    cases result with
    | ok a =>
      obtain ⟨k', hreaches, hP⟩ := hfollows
      rw [run_bind_ok hrun]
      exact hreaches.follows (hf a middle k' hP (hsuffix.trans hrest))
    | error e =>
      rw [run_bind_error hrun]
      exact hfollows

theorem FollowsOn.mono {P' : α → List Char → Control → Prop} (hp : FollowsOn text rest k p P)
    (h : ∀ a rest k, P a rest k → P' a rest k) : FollowsOn text rest k p P' := by
  intro hrest
  have hfollows := hp hrest
  generalize p.run (byteLength text) rest = outcome at hfollows
  match outcome with
  | (.ok a, rest') =>
    obtain ⟨k', hreaches, hP⟩ := hfollows
    exact ⟨k', hreaches, h a rest' k' hP⟩
  | (.error e, _) => exact hfollows

theorem FollowsOn.map (hp : FollowsOn text rest k p P) {g : α → β} (h : ∀ a rest k, P a rest k → Q (g a) rest k) :
    FollowsOn text rest k (p >>= fun a => pure (g a)) Q :=
  hp.bind fun a _ _ hP => followsOn_pure (h a _ _ hP)

theorem FollowsOn.of_run_eq {p' : PortableReader α} (h : FollowsOn text rest k p P)
    (hrun : p'.run (byteLength text) rest = p.run (byteLength text) rest) : FollowsOn text rest k p' P := by
  rw [FollowsOn, hrun]
  exact h

theorem followsOn_bind_assoc {γ : Type} {g : β → PortableReader γ} {R : γ → List Char → Control → Prop} :
    FollowsOn text rest k ((p >>= f) >>= g) R ↔ FollowsOn text rest k (p >>= fun a => f a >>= g) R := by
  have hrun : ((p >>= f) >>= g).run (byteLength text) rest = (p >>= fun a => f a >>= g).run (byteLength text) rest := by
    cases hp : p.run (byteLength text) rest with
    | mk result middle =>
      cases result with
      | ok a =>
        rw [run_bind_ok hp]
        cases hf : (f a).run (byteLength text) middle with
        | mk result' left =>
          cases result' with
          | ok b => rw [run_bind_ok ((run_bind_ok hp f).trans hf), run_bind_ok hf]
          | error e => rw [run_bind_error ((run_bind_ok hp f).trans hf), run_bind_error hf]
      | error e => rw [run_bind_error (run_bind_error hp f), run_bind_error hp]
  rw [FollowsOn, FollowsOn, hrun]

/-- A step that takes nothing. -/
theorem followsOn_of_turn {task : Task} {frames : List Frame}
    (hstep : (stateAt text rest k).perform rest = (stateAt text rest k).move 0 task frames)
    (h : FollowsOn text rest ⟨task, frames⟩ p P) : FollowsOn text rest k p P :=
  fun hrest => Reaches.follows (.single ((step_stateAt hrest).trans hstep)) (h hrest)

/-- A step that takes the character that a reader takes. -/
theorem followsOn_next?_bind {f : Option Char → PortableReader β} {task : Task} {frames : List Frame}
    (hstep : (stateAt text (c :: cs) k).perform (c :: cs) = (stateAt text (c :: cs) k).move c.utf8Size task frames)
    (h : FollowsOn text cs ⟨task, frames⟩ (f (some c)) Q) : FollowsOn text (c :: cs) k (next? >>= f) Q :=
  fun hrest => Reaches.follows (.single ((step_stateAt hrest).trans (hstep.trans (move_one_stateAt hrest _ _))))
    (h ((List.suffix_cons c cs).trans hrest))

theorem followsOn_error {e : FormatError} (hrun : (p.run (byteLength text) rest).1 = .error e)
    (hstep : (stateAt text rest k).perform rest = .halted (.error e)) : FollowsOn text rest k p P := by
  intro hrest
  match p.run (byteLength text) rest, hrun with
  | (.error _, _), rfl => exact ⟨_, .refl, (step_stateAt hrest).trans hstep⟩

theorem followsOn_here_bind {f : Nat → PortableReader β}
    (h : FollowsOn text rest k (f (stateAt text rest k).position) Q) : FollowsOn text rest k (here >>= f) Q :=
  h

/-- Rounds that a machine does as well, with what they preserve. -/
theorem followsOn_loop {next : List Char → Option β} {step : β → α → PortableReader α}
    {consumes : ∀ b a, (step b a).Consuming} {a : α} (hstart : P a rest k)
    (hround : ∀ a c cs k b, P a (c :: cs) k → next (c :: cs) = some b → FollowsOn text (c :: cs) k (step b a) P) :
    FollowsOn text rest k (loop next step consumes a) fun a rest k => P a rest k ∧ (rest = [] ∨ next rest = none) := by
  intro hrest
  -- every round takes a character, so it is on the length of what is left
  induction hlength : rest.length using Nat.strong_induction_on generalizing rest a k with
  | _ n ih =>
    subst hlength
    cases rest with
    | nil =>
      have hrun : (loop next step consumes a).run (byteLength text) [] = (.ok a, []) := by
        show loopRun next step consumes (byteLength text) a [] = _
        rw [loopRun, dif_pos rfl]
      rw [hrun]
      exact ⟨k, .refl, hstart, .inl rfl⟩
    | cons c cs =>
      cases hnext : next (c :: cs) with
      | none =>
        rw [run_loop_of_none hnext]
        exact ⟨k, .refl, hstart, .inr hnext⟩
      | some b =>
        have hne : c :: cs ≠ [] := List.cons_ne_nil c cs
        have hfollows := hround a c cs k b hstart hnext hrest
        have hsuffix := (step b a).suffix (byteLength text) (c :: cs)
        have hshorter := consumes b a (byteLength text) (c :: cs)
        cases hstep : (step b a).run (byteLength text) (c :: cs) with
        | mk result middle =>
          rw [hstep] at hfollows hsuffix hshorter
          cases result with
          | ok a' =>
            obtain ⟨k', hreaches, hP⟩ := hfollows
            rw [run_loop_step hne hnext hstep]
            exact hreaches.follows (ih middle.length (hshorter a' hne rfl) hP (hsuffix.trans hrest) rfl)
          | error e =>
            rw [run_loop_error hne hnext hstep]
            exact hfollows

/-! ### Blanks and fixed characters -/

/-- No blank comes next. -/
def NoBlank (rest : List Char) : Prop :=
  ∀ c ∈ rest.head?, Text.isBlank c = false

/-- Blanks are taken one by one. -/
theorem followsOn_blanks {task : Task} {frames : List Frame}
    (htask : ∀ c cs, Text.isBlank c = true → (stateAt text (c :: cs) ⟨task, frames⟩).perform (c :: cs) =
      (stateAt text (c :: cs) ⟨task, frames⟩).take c task) :
    FollowsOn text rest ⟨task, frames⟩ blanks fun _ rest k => k = ⟨task, frames⟩ ∧ NoBlank rest := by
  intro hrest
  rw [run_blanks]
  induction rest with
  | nil => exact ⟨_, .refl, rfl, nofun⟩
  | cons c cs ih =>
    by_cases hc : Text.isBlank c = true
    · have hstep := (step_stateAt hrest).trans ((htask c cs hc).trans (take_stateAt hrest task))
      rw [List.dropWhile_cons_of_pos hc]
      exact Reaches.follows (.single hstep) (ih ((List.suffix_cons c cs).trans hrest))
    · rw [List.dropWhile_cons_of_neg hc]
      exact ⟨_, .refl, rfl, fun c' hc' => by cases hc'; exact Bool.eq_false_iff.2 hc⟩

theorem run_expect_of_not (literal : String) (stop : Nat) (hstarts : ¬literal.toList.isPrefixOf rest) :
    (expect literal).run stop rest = (.error
      (if rest.isPrefixOf literal.toList then .truncated (stop - byteLength rest) (.literal literal)
        else .malformed (stop - byteLength rest) (.notLiteral literal)), rest) := by
  show Reader.run (if literal.toList.isPrefixOf rest then _ else if rest.isPrefixOf literal.toList then _ else _) stop
    rest = _
  rw [if_neg hstarts]
  split
  · rfl
  · rfl

theorem followsOn_expect {literal : String} {task : Task}
    (htask : (stateAt text rest k).perform rest = (stateAt text rest k).expect literal rest task) :
    FollowsOn text rest k (expect literal) fun _ _ k' => k' = ⟨task, k.frames⟩ := by
  by_cases hstarts : literal.toList.isPrefixOf rest
  · obtain ⟨back, rfl⟩ := List.isPrefixOf_iff_prefix.1 hstarts
    intro hrest
    have hstep := (step_stateAt hrest).trans htask
    rw [State.expect, if_pos hstarts, ← byteLength_toList, move_stateAt hrest] at hstep
    rw [reads_expect literal]
    exact ⟨_, .single hstep, rfl⟩
  · refine followsOn_error (congrArg Prod.fst (run_expect_of_not literal _ hstarts)) (htask.trans ?_)
    rw [State.expect, if_neg hstarts]
    split
    · rfl
    · rfl

/-! ### Characters with backslashes -/

variable {frames : List Frame} {purpose : Purpose}

theorem followsOn_escaped {taken : List Char} :
    FollowsOn text rest ⟨.escaped purpose taken, frames⟩ escaped fun c _ k =>
      k = ⟨.characters purpose (c :: taken), frames⟩ := by
  cases rest with
  | nil =>
    exact followsOn_error rfl rfl
  | cons c cs => exact followsOn_next?_bind rfl (followsOn_pure rfl)

theorem perform_characters {s : State} {taken : List Char} (hs : s.task = .characters purpose taken)
    (hc : purpose.more c = true) :
    s.perform (c :: cs) = s.take c (if c = '\\' then .escaped purpose taken else .characters purpose (c :: taken)) := by
  simp only [State.perform, hs, List.head?_cons, Option.filter_some, hc, if_true]

theorem perform_characters_end {s : State} {taken : List Char} (hs : s.task = .characters purpose taken)
    (hend : rest.head?.filter purpose.more = none) :
    s.perform rest = s.close (String.ofList taken.reverse) rest purpose := by
  simp only [State.perform, hs, hend]

theorem followsOn_unescape {taken : List Char} (hc : purpose.more c = true) :
    FollowsOn text (c :: cs) ⟨.characters purpose taken, frames⟩ (unescape taken) fun taken _ k =>
      k = ⟨.characters purpose taken, frames⟩ := by
  by_cases hescape : c = '\\'
  · subst hescape
    exact followsOn_next?_bind (perform_characters rfl hc) (followsOn_escaped.map fun c rest k hk => hk)
  · intro hrest
    have hperform : (stateAt text (c :: cs) ⟨.characters purpose taken, frames⟩).perform (c :: cs) = _ :=
      perform_characters rfl hc
    rw [if_neg hescape, take_stateAt hrest] at hperform
    rw [run_unescape hescape]
    exact ⟨_, .single ((step_stateAt hrest).trans hperform), rfl⟩

/-- The characters up to one that is not taken. -/
theorem followsOn_unescaped {more : Char → Bool} (hmore : purpose.more = more) :
    FollowsOn text rest ⟨.characters purpose [], frames⟩ (unescaped more) fun taken rest k =>
      k = ⟨.characters purpose taken, frames⟩ ∧ rest.head?.filter purpose.more = none := by
  subst hmore
  refine (followsOn_loop (P := fun taken _ k => k = ⟨.characters purpose taken, frames⟩) rfl ?_).mono ?_
  · rintro taken c cs _ b rfl hnext
    obtain ⟨hb, hc⟩ := Option.filter_eq_some_iff.1 hnext
    cases hb
    exact followsOn_unescape hc
  · rintro taken rest k ⟨hk, rfl | hend⟩
    · exact ⟨hk, rfl⟩
    · exact ⟨hk, hend⟩

/-- A word ends in front of a character that belongs to no word. -/
theorem followsOn_nameText (hmore : purpose.more = fun c => c == '\\' || isNameChar c) {task : String → Task}
    (hclose : ∀ (s : State) rest name, s.close name rest purpose = s.turn (task name)) :
    FollowsOn text rest ⟨.characters purpose [], frames⟩ nameText fun name _ k => k = ⟨task name, frames⟩ := by
  refine (followsOn_unescaped hmore).bind ?_
  rintro taken rest' _ ⟨rfl, hend⟩
  exact followsOn_of_turn ((perform_characters_end rfl hend).trans (hclose _ _ _)) (followsOn_pure rfl)

theorem close_scalar {s : State} {word : String} {m : Marker} {offset : Nat} {v : Value}
    (hv : scalarValue? m word = some v) : s.close word (c :: cs) (.scalar m offset) = s.take c (.finished "" v) := by
  simp only [State.close, hv]

theorem close_scalar_none {s : State} {word : String} {m : Marker} {offset : Nat} (hv : scalarValue? m word = none) :
    s.close word (c :: cs) (.scalar m offset) = .halted (.error (.invalidScalar offset m word)) := by
  simp only [State.close, hv]

/-- The text of a scalar up to its closing quote, and its value. -/
theorem followsOn_scalarText {m : Marker} {offset : Nat} :
    FollowsOn text rest ⟨.characters (.scalar m offset) [], frames⟩ (quotedText >>= scalar offset m) fun v _ k =>
      k = ⟨.finished "" v, frames⟩ := by
  refine followsOn_bind_assoc.2 ((followsOn_unescaped rfl).bind ?_)
  rintro taken rest' _ ⟨rfl, hend⟩
  cases rest' with
  | nil => exact followsOn_error rfl (perform_characters_end rfl hend)
  | cons c cs =>
    -- the machine takes the quote in the step in which it makes the value
    cases hv : scalarValue? m (String.ofList taken.reverse) with
    | some v =>
      have hquote : FollowsOn text (c :: cs) ⟨.characters (.scalar m offset) taken, frames⟩
          (next? >>= fun _ => scalar offset m (String.ofList taken.reverse))
          fun v _ k => k = ⟨.finished "" v, frames⟩ := by
        refine followsOn_next?_bind ((perform_characters_end rfl hend).trans (close_scalar hv)) ?_
        simp only [scalar, hv]
        exact followsOn_pure rfl
      exact hquote.of_run_eq rfl
    | none =>
      refine followsOn_error ?_ ((perform_characters_end rfl hend).trans (close_scalar_none hv))
      show ((scalar offset m (String.ofList taken.reverse)).run _ cs).1 = _
      rw [scalar, hv]
      rfl

/-! ### Values -/

variable {inner : Nat → PortableReader (String × Value)}

/-- A value is finished, and has a name if it is an object. -/
def IsFinished (frames : List Frame) (result : String × Value) (_ : List Char) (k : Control) : Prop :=
  k = ⟨.finished result.1 result.2, frames⟩

/-- A value is finished, and its name does not matter. -/
def IsFinishedValue (frames : List Frame) (v : Value) (_ : List Char) (k : Control) : Prop :=
  ∃ name, k = ⟨.finished name v, frames⟩

/-- In front of an `@` a machine does what a reader does behind it. -/
def FollowsInner (text : List Char) (frames : List Frame) (inner : Nat → PortableReader (String × Value)) : Prop :=
  ∀ cs task, task = .value ∨ task = .container →
    FollowsOn text ('@' :: cs) ⟨task, frames⟩
      (next? >>= fun _ => inner (byteLength text - byteLength ('@' :: cs))) (IsFinished frames)

section

variable {s : State} {m : Marker}

theorem perform_value_mark (hs : s.task = .value) (hat : c ≠ '@') (hm : Marker.ofSymbol? c = some m) :
    s.perform (c :: cs) = s.take c (.opening "`" m s.position) := by
  simp only [State.perform, hs, List.head?_cons, if_neg hat, hm]

theorem perform_value_unknown (hs : s.task = .value) (hat : c ≠ '@') (hm : Marker.ofSymbol? c = none) :
    s.perform (c :: cs) = .halted (.error (.unknownMarker s.position c)) := by
  simp only [State.perform, hs, List.head?_cons, if_neg hat, hm]
  rfl

theorem perform_container_other (hs : s.task = .container) (hat : c ≠ '@') :
    s.perform (c :: cs) = .halted (.error (.malformed s.position .notContainer)) := by
  simp only [State.perform, hs, List.head?_cons, if_neg hat]
  rfl

variable {o : OpenObject} {offset : Nat} {key : String}

theorem perform_mark_sign (hs : s.task = .mark o offset key) :
    s.perform ('=' :: cs) = s.move '='.utf8Size .container (.field o offset key :: s.frames) := by
  simp only [State.perform, hs, List.head?_cons, if_true]

theorem perform_mark_mark (hs : s.task = .mark o offset key) (hsign : c ≠ '=') (hm : Marker.ofSymbol? c = some m) :
    s.perform (c :: cs) = s.move c.utf8Size (.opening "=`" m s.position) (.field o offset key :: s.frames) := by
  simp only [State.perform, hs, List.head?_cons, if_neg hsign, hm]

theorem perform_mark_unknown (hs : s.task = .mark o offset key) (hsign : c ≠ '=') (hm : Marker.ofSymbol? c = none) :
    s.perform (c :: cs) = .halted (.error (.unknownMarker s.position c)) := by
  simp only [State.perform, hs, List.head?_cons, if_neg hsign, hm]
  rfl

end

theorem followsOn_value (hinner : FollowsInner text frames inner) :
    FollowsOn text rest ⟨.value, frames⟩ (value inner) (IsFinished frames) := by
  cases rest with
  | nil => exact followsOn_error rfl rfl
  | cons c cs =>
    by_cases hat : c = '@'
    · subst hat
      exact hinner cs .value (.inl rfl)
    · cases hm : Marker.ofSymbol? c with
      | some m =>
        refine followsOn_here_bind (followsOn_next?_bind (perform_value_mark rfl hat hm) ?_)
        simp only [valueAfter, if_neg hat, hm]
        refine (followsOn_expect rfl).bind ?_
        rintro _ rest' _ rfl
        refine followsOn_bind_assoc.1 (followsOn_scalarText.map ?_)
        rintro v rest'' _ rfl
        rfl
      | none =>
        refine followsOn_error ?_ (perform_value_unknown rfl hat hm)
        show ((valueAfter inner _ c).run _ cs).1 = _
        simp only [valueAfter, if_neg hat, hm]
        rfl

theorem followsOn_containerOnly (hinner : FollowsInner text frames inner) :
    FollowsOn text rest ⟨.container, frames⟩ (containerOnly inner) (IsFinishedValue frames) := by
  cases rest with
  | nil => exact followsOn_error rfl rfl
  | cons c cs =>
    by_cases hat : c = '@'
    · subst hat
      have hmap := (hinner cs .container (.inr rfl)).map (Q := IsFinishedValue frames) (g := Prod.snd)
        fun result _ _ hk => ⟨result.1, hk⟩
      exact followsOn_bind_assoc.1 hmap
    · refine followsOn_error ?_ (perform_container_other rfl hat)
      rw [containerOnly, run_bind_ok (run_here _ _), run_bind_ok run_next?]
      simp only [List.head?_cons, List.tail_cons]
      rfl

/-- The value of a field, behind its key. -/
theorem followsOn_fieldValue {o : OpenObject} {offset : Nat} {key : String}
    (hinner : FollowsInner text (.field o offset key :: frames) inner) :
    FollowsOn text rest ⟨.mark o offset key, frames⟩
      (here >>= fun place => next? >>= fun
        | some c => fieldValue inner place c >>= fun v => pure (key, v)
        | none => fail (.truncated place .marker))
      fun field _ k => field.1 = key ∧ IsFinishedValue (.field o offset key :: frames) field.2 [] k := by
  cases rest with
  | nil => exact followsOn_error rfl rfl
  | cons c cs =>
    by_cases hsign : c = '='
    · subst hsign
      refine followsOn_here_bind (followsOn_next?_bind (perform_mark_sign rfl) ?_)
      exact (followsOn_containerOnly hinner).map fun v _ _ hk => ⟨rfl, hk⟩
    · cases hm : Marker.ofSymbol? c with
      | some m =>
        refine followsOn_here_bind (followsOn_next?_bind (perform_mark_mark rfl hsign hm) ?_)
        simp only [fieldValue, if_neg hsign, hm]
        refine FollowsOn.map (P := IsFinishedValue (.field o offset key :: frames)) ?_ fun v _ _ hk => ⟨rfl, hk⟩
        refine (followsOn_expect rfl).bind ?_
        rintro _ rest' _ rfl
        exact followsOn_scalarText.mono fun v _ _ hk => ⟨"", hk⟩
      | none =>
        refine followsOn_error ?_ (perform_mark_unknown rfl hsign hm)
        show (((fieldValue inner _ c) >>= fun v => pure (key, v)).run _ cs).1 = _
        simp only [fieldValue, if_neg hsign, hm]
        rfl

/-! ### Objects -/

theorem followsOn_field {o : OpenObject} {offset : Nat}
    (hinner : ∀ f, FollowsInner text (f :: frames) inner) :
    FollowsOn text rest ⟨.characters (.key o offset) [], frames⟩ (field inner) fun field _ k =>
      ∃ name, k = ⟨.finished name field.2, .field o offset field.1 :: frames⟩ := by
  refine (followsOn_nameText rfl fun _ _ _ => rfl).bind ?_
  rintro key rest' _ rfl
  refine (followsOn_fieldValue (hinner _)).mono ?_
  rintro ⟨_, v⟩ rest'' k ⟨rfl, name, hk⟩
  exact ⟨name, hk⟩

/-- The fields that have been read are those of the object that is open. -/
def IsOpen (name : String) (frames : List Frame) (entries : List (String × Value)) (rest : List Char) (k : Control) : Prop :=
  NoBlank rest ∧ ∃ o : OpenObject, k = ⟨.fields o, frames⟩ ∧ o.name = name ∧ Entries.ofList o.fields.reverse = entries

theorem isSome_find?_ofList_iff {o : OpenObject} {key : String} :
    (Entries.find? key (Entries.ofList o.fields.reverse)).isSome ↔ key ∈ o.keys := by
  rw [Entries.find?_ofList, List.reverse_reverse, Option.isSome_iff_exists]
  constructor
  · rintro ⟨v, hv⟩
    exact List.mem_map.2 ⟨(key, v), Entries.mem_of_find? hv, rfl⟩
  · intro hmem
    obtain ⟨e, he, rfl⟩ := List.mem_map.1 hmem
    exact Option.isSome_iff_exists.1 (Entries.find?_isSome_of_mem he)

theorem ofList_add (o : OpenObject) (key : String) (v : Value) :
    Entries.ofList (o.add key v).fields.reverse = Entries.insert key v (Entries.ofList o.fields.reverse) := by
  rw [OpenObject.add, List.reverse_cons, Entries.ofList, List.foldl_append]
  rfl

section

variable {s : State} {o : OpenObject}

theorem perform_fields_blank (hs : s.task = .fields o) (hblank : Text.isBlank c = true) :
    s.perform (c :: cs) = s.take c (.fields o) := by
  simp only [State.perform, hs, List.head?_cons, hblank, if_true]

theorem perform_fields_next (hs : s.task = .fields o) (hblank : Text.isBlank c = false) (hc : c ≠ '>') :
    s.perform (c :: cs) = s.turn (.characters (.key o s.position) []) := by
  simp only [State.perform, hs, List.head?_cons, hblank, Bool.false_eq_true, if_false, if_neg hc]

theorem perform_fields_end (hs : s.task = .fields o) :
    s.perform ('>' :: cs) = s.take '>' (.finished o.name o.value) := by
  have hblank : Text.isBlank '>' = false := by decide
  simp only [State.perform, hs, List.head?_cons, hblank, Bool.false_eq_true, if_false, if_true]

variable {name key : String} {v : Value} {offset : Nat} {frames : List Frame}

theorem perform_finished_field (hs : s.task = .finished name v) (hframes : s.frames = .field o offset key :: frames)
    (hkey : key ∉ o.keys) : s.perform rest = s.move 0 (.fields (o.add key v)) frames := by
  simp only [State.perform, hs, State.deliver, hframes, if_neg hkey]

theorem perform_finished_duplicate (hs : s.task = .finished name v)
    (hframes : s.frames = .field o offset key :: frames) (hkey : key ∈ o.keys) :
    s.perform rest = .halted (.error (.duplicateKey offset key)) := by
  simp only [State.perform, hs, State.deliver, hframes, if_pos hkey]

end

theorem followsOn_anotherField {name : String} (hinner : ∀ f, FollowsInner text (f :: frames) inner)
    {entries : List (String × Value)} (hopen : IsOpen name frames entries (c :: cs) k) (hc : c ≠ '>') :
    FollowsOn text (c :: cs) k (anotherField inner entries) (IsOpen name frames) := by
  obtain ⟨hblank, o, rfl, hname, rfl⟩ := hopen
  refine followsOn_here_bind (followsOn_of_turn (perform_fields_next rfl (hblank c rfl) hc) ?_)
  refine (followsOn_field hinner).bind ?_
  rintro ⟨key, v⟩ rest' _ ⟨_, rfl⟩
  by_cases hkey : key ∈ o.keys
  · refine followsOn_error ?_ (perform_finished_duplicate rfl rfl hkey)
    dsimp only
    rw [addField, if_pos (isSome_find?_ofList_iff.2 hkey)]
    rfl
  · dsimp only
    rw [addField, if_neg (mt isSome_find?_ofList_iff.1 hkey)]
    refine followsOn_of_turn (perform_finished_field rfl rfl hkey) ?_
    show FollowsOn text rest' _ (blanks >>= fun _ => pure (Entries.insert key v (Entries.ofList o.fields.reverse))) _
    refine (followsOn_blanks fun _ _ => perform_fields_blank rfl).map ?_
    rintro _ rest'' _ ⟨rfl, hrest''⟩
    exact ⟨hrest'', o.add key v, rfl, hname, ofList_add o key v⟩

theorem followsOn_fields {name : String} (hinner : ∀ f, FollowsInner text (f :: frames) inner) :
    FollowsOn text rest ⟨.fields { name, fields := [] }, frames⟩ (fields inner) fun entries _ k =>
      k = ⟨.finished name (.object entries), frames⟩ := by
  refine (followsOn_blanks fun _ _ => perform_fields_blank rfl).bind ?_
  rintro _ rest' _ ⟨rfl, hblank⟩
  refine (followsOn_loop (P := IsOpen name frames) ⟨hblank, _, rfl, rfl, rfl⟩ ?_).bind ?_
  · intro entries c cs k b hopen hnext
    obtain ⟨hb, hc⟩ := Option.filter_eq_some_iff.1 hnext
    cases hb
    exact followsOn_anotherField hinner hopen (by simpa using hc)
  · rintro entries rest'' k ⟨⟨-, o, rfl, rfl, rfl⟩, hend⟩
    cases rest'' with
    | nil => exact followsOn_error rfl rfl
    | cons c cs =>
      obtain rfl : c = '>' := by simpa using hend
      exact followsOn_next?_bind (perform_fields_end rfl) (followsOn_pure rfl)

/-! ### Arrays -/

/-- The items that have been read are those of the array that is open. -/
def IsOpenArray (frames : List Frame) (taken : List Value) (rest : List Char) (k : Control) : Prop :=
  NoBlank rest ∧ k = ⟨.items taken, frames⟩

section

variable {s : State} {taken : List Value}

theorem perform_items_blank (hs : s.task = .items taken) (hblank : Text.isBlank c = true) :
    s.perform (c :: cs) = s.take c (.items taken) := by
  simp only [State.perform, hs, List.head?_cons, hblank, if_true]

theorem perform_items_next (hs : s.task = .items taken) (hblank : Text.isBlank c = false) (hc : c ≠ ']') :
    s.perform (c :: cs) = s.move 0 .value (.item taken :: s.frames) := by
  simp only [State.perform, hs, List.head?_cons, hblank, Bool.false_eq_true, if_false, if_neg hc]

theorem perform_items_end (hs : s.task = .items taken) :
    s.perform (']' :: cs) = s.take ']' (.finished "" (.array taken.reverse)) := by
  have hblank : Text.isBlank ']' = false := by decide
  simp only [State.perform, hs, List.head?_cons, hblank, Bool.false_eq_true, if_false, if_true]

end

theorem followsOn_anotherItem (hinner : ∀ f, FollowsInner text (f :: frames) inner) {taken : List Value}
    (hopen : IsOpenArray frames taken (c :: cs) k) (hc : c ≠ ']') :
    FollowsOn text (c :: cs) k (anotherItem inner taken) (IsOpenArray frames) := by
  obtain ⟨hblank, rfl⟩ := hopen
  refine followsOn_of_turn (perform_items_next rfl (hblank c rfl) hc) ((followsOn_value (hinner _)).bind ?_)
  rintro ⟨name, v⟩ rest' _ rfl
  refine followsOn_of_turn rfl ((followsOn_blanks fun _ _ => perform_items_blank rfl).map ?_)
  rintro _ rest'' _ ⟨rfl, hrest''⟩
  exact ⟨hrest'', rfl⟩

theorem followsOn_items (hinner : ∀ f, FollowsInner text (f :: frames) inner) :
    FollowsOn text rest ⟨.items [], frames⟩ (items inner) fun vs _ k => k = ⟨.finished "" (.array vs), frames⟩ := by
  refine (followsOn_blanks fun _ _ => perform_items_blank rfl).bind ?_
  rintro _ rest' _ ⟨rfl, hblank⟩
  refine (followsOn_loop (P := IsOpenArray frames) ⟨hblank, rfl⟩ ?_).bind ?_
  · intro taken c cs k b hopen hnext
    obtain ⟨hb, hc⟩ := Option.filter_eq_some_iff.1 hnext
    cases hb
    exact followsOn_anotherItem hinner hopen (by simpa using hc)
  · rintro taken rest'' k ⟨⟨-, rfl⟩, hend⟩
    cases rest'' with
    | nil => exact followsOn_error rfl rfl
    | cons c cs =>
      obtain rfl : c = ']' := by simpa using hend
      exact followsOn_next?_bind (perform_items_end rfl) (followsOn_pure rfl)

/-! ### Arrays and objects in each other -/

theorem followsOn_objectAfter (hinner : ∀ f, FollowsInner text (f :: frames) inner) :
    FollowsOn text rest ⟨.characters .objectName [], frames⟩ (objectAfter inner) (IsFinished frames) := by
  refine (followsOn_nameText rfl fun _ _ _ => rfl).bind ?_
  rintro name _ _ rfl
  refine (followsOn_expect rfl).bind ?_
  rintro _ _ _ rfl
  refine (followsOn_fields hinner).map ?_
  rintro entries _ _ rfl
  rfl

theorem followsOn_arrayAfter (hinner : ∀ f, FollowsInner text (f :: frames) inner) :
    FollowsOn text rest ⟨.items [], frames⟩ (arrayAfter inner) (IsFinished frames) := by
  refine (followsOn_items hinner).map ?_
  rintro vs _ _ rfl
  rfl

theorem perform_at {s : State} (hs : s.task = .value ∨ s.task = .container) :
    s.perform ('@' :: cs) = s.enter ('@' :: cs) := by
  rcases hs with hs | hs
  · simp only [State.perform, hs, List.head?_cons, if_true]
  · simp only [State.perform, hs, List.head?_cons, if_true]

section

variable {inner? : Option (Nat → PortableReader (String × Value))} {start : String} {body back : List Char} {task : Task}

/-- An array or an object is entered, or it is too deep. -/
theorem followsOn_nested (after : (Nat → PortableReader (String × Value)) → PortableReader (String × Value))
    (hstart : start.toList = '@' :: body)
    (hstep : (stateAt text ('@' :: (body ++ back)) k).perform ('@' :: (body ++ back)) =
      (stateAt text ('@' :: (body ++ back)) k).nest start task)
    (hdeep : inner? = none → ¬k.frames.length < nestingLimit)
    (hafter : ∀ inner ∈ inner?, k.frames.length < nestingLimit ∧
      FollowsOn text back ⟨task, k.frames⟩ (after inner) (IsFinished k.frames)) :
    FollowsOn text ('@' :: (body ++ back)) k
      (next? >>= fun _ => nested (byteLength text - byteLength ('@' :: (body ++ back))) body inner? after)
      (IsFinished k.frames) := by
  cases inner? with
  | none => exact followsOn_error rfl (hstep.trans (if_neg (hdeep rfl)))
  | some inner =>
    obtain ⟨hlength, hfollows⟩ := hafter inner rfl
    intro hrest
    have hrun : Reader.run (next? >>= fun _ => nested (byteLength text - byteLength ('@' :: (body ++ back))) body
        (some inner) after) (byteLength text) ('@' :: (body ++ back)) = (after inner).run (byteLength text) back := by
      rw [run_bind_ok run_next?]
      simp only [List.tail_cons, nested]
      rw [run_bind_ok (run_skip _), List.drop_left]
    have hmove : start.toList ++ back <:+ text := by rwa [hstart]
    have hnext : (stateAt text ('@' :: (body ++ back)) k).nest start task =
        .next (stateAt text back ⟨task, k.frames⟩) := by
      have hmoved := move_stateAt (k := k) hmove task k.frames
      rw [byteLength_toList, hstart] at hmoved
      exact (if_pos hlength).trans hmoved
    rw [hrun]
    exact Reaches.follows (.single ((step_stateAt hrest).trans (hstep.trans hnext)))
      (hfollows ((List.suffix_append _ _).trans hmove))

end

theorem objectStart_eq : objectStart.toList = '@' :: objectStart.toList.tail := by
  decide

theorem arrayStart_eq : arrayStart.toList = '@' :: arrayStart.toList.tail := by
  decide

theorem run_containerAfter {inner? : Option (Nat → PortableReader (String × Value))} {offset stop : Nat} :
    (containerAfter inner? offset).run stop cs =
      if objectStart.toList.tail.isPrefixOf cs then
        (nested offset objectStart.toList.tail inner? objectAfter).run stop cs
      else if arrayStart.toList.tail.isPrefixOf cs then
        (nested offset arrayStart.toList.tail inner? arrayAfter).run stop cs
      else (.error (if cs.isPrefixOf objectStart.toList.tail || cs.isPrefixOf arrayStart.toList.tail then
        .truncated offset .container else .malformed offset .notContainer), cs) := by
  rw [containerAfter, run_bind_ok (run_ahead)]
  split
  · rfl
  · split
    · rfl
    · split
      · rfl
      · rfl

/-- Arrays and objects are entered where fewer than the limit are open. -/
theorem followsInner_containerAfter {inner? : Option (Nat → PortableReader (String × Value))}
    (hdeep : inner? = none → ¬frames.length < nestingLimit)
    (hinner : ∀ inner ∈ inner?, frames.length < nestingLimit ∧ ∀ f, FollowsInner text (f :: frames) inner) :
    FollowsInner text frames (containerAfter inner?) := by
  intro cs task htask
  -- the reader looks at what follows the `@`, the machine at the `@` as well
  have hstep : (stateAt text ('@' :: cs) ⟨task, frames⟩).perform ('@' :: cs) = _ := perform_at htask
  have hobject : objectStart.toList.isPrefixOf ('@' :: cs) = objectStart.toList.tail.isPrefixOf cs := by
    rw [objectStart_eq]
    rfl
  have harray : arrayStart.toList.isPrefixOf ('@' :: cs) = arrayStart.toList.tail.isPrefixOf cs := by
    rw [arrayStart_eq]
    rfl
  have hbreaks : (('@' :: cs).isPrefixOf objectStart.toList || ('@' :: cs).isPrefixOf arrayStart.toList) =
      (cs.isPrefixOf objectStart.toList.tail || cs.isPrefixOf arrayStart.toList.tail) := by
    rw [objectStart_eq, arrayStart_eq]
    rfl
  rw [State.enter, hobject, harray, hbreaks] at hstep
  by_cases hisObject : objectStart.toList.tail.isPrefixOf cs
  · rw [if_pos hisObject] at hstep
    obtain ⟨back, rfl⟩ := List.isPrefixOf_iff_prefix.1 hisObject
    refine (followsOn_nested objectAfter objectStart_eq hstep hdeep fun inner h => ?_).of_run_eq ?_
    · exact ⟨(hinner inner h).1, followsOn_objectAfter (hinner inner h).2⟩
    · exact run_containerAfter.trans (if_pos hisObject)
  · rw [if_neg hisObject] at hstep
    by_cases hisArray : arrayStart.toList.tail.isPrefixOf cs
    · rw [if_pos hisArray] at hstep
      obtain ⟨back, rfl⟩ := List.isPrefixOf_iff_prefix.1 hisArray
      refine (followsOn_nested arrayAfter arrayStart_eq hstep hdeep fun inner h => ?_).of_run_eq ?_
      · exact ⟨(hinner inner h).1, followsOn_arrayAfter (hinner inner h).2⟩
      · exact run_containerAfter.trans ((if_neg hisObject).trans (if_pos hisArray))
    · rw [if_neg hisArray] at hstep
      refine followsOn_error (congrArg Prod.fst
        (run_containerAfter.trans ((if_neg hisObject).trans (if_neg hisArray)))) (hstep.trans ?_)
      split
      · rfl
      · rfl

/-- With one more frame, arrays and objects may nest one level less. -/
theorem followsInner_container (level : Nat) {frames : List Frame} (hlevel : frames.length + level = nestingLimit) :
    FollowsInner text frames (container level) := by
  induction level generalizing frames with
  | zero => exact followsInner_containerAfter (fun _ => by omega) nofun
  | succ level ih =>
    refine followsInner_containerAfter nofun ?_
    rintro _ ⟨⟩
    refine ⟨by omega, fun f => ih ?_⟩
    rw [List.length_cons]
    omega

/-! ### Whole texts -/

section

variable {s : State} {name : String} {v : Value}

theorem perform_begin_blank (hs : s.task = .begin) (hblank : Text.isBlank c = true) :
    s.perform (c :: cs) = s.take c .begin := by
  simp only [State.perform, hs, List.head?_cons, Option.filter_some, hblank, if_true]

theorem perform_begin_end (hs : s.task = .begin) (hblank : NoBlank rest) : s.perform rest = s.turn .value := by
  have hnone : rest.head?.filter Text.isBlank = none := Option.filter_eq_none_iff.2 fun c hc => by simp [hblank c hc]
  simp only [State.perform, hs, hnone]

theorem perform_ended_blank (hs : s.task = .ended name v) (hblank : Text.isBlank c = true) :
    s.perform (c :: cs) = s.take c (.ended name v) := by
  simp only [State.perform, hs, List.head?_cons, hblank, if_true]

theorem perform_ended_trailing (hs : s.task = .ended name v) (hblank : Text.isBlank c = false) :
    s.perform (c :: cs) = .halted (.error (.malformed s.position .trailing)) := by
  simp only [State.perform, hs, List.head?_cons, hblank, Bool.false_eq_true, if_false]
  rfl

end

theorem followsOn_document :
    FollowsOn text rest ⟨.begin, []⟩ document fun result rest k => rest = [] ∧ k = ⟨.ended result.1 result.2, []⟩ := by
  refine (followsOn_blanks fun _ _ => perform_begin_blank rfl).bind ?_
  rintro _ rest' _ ⟨rfl, hblank⟩
  have hinner : FollowsInner text [] (container nestingLimit) := followsInner_container nestingLimit (Nat.zero_add _)
  refine followsOn_of_turn (perform_begin_end rfl hblank) ((followsOn_value hinner).bind ?_)
  rintro ⟨name, v⟩ rest'' _ rfl
  refine followsOn_of_turn rfl ((followsOn_blanks fun _ _ => perform_ended_blank rfl).bind ?_)
  rintro _ last _ ⟨rfl, hend⟩
  cases last with
  | nil => exact followsOn_pure ⟨rfl, rfl⟩
  | cons c cs => exact followsOn_error rfl (perform_ended_trailing rfl (hend c rfl))

theorem stateAt_start : stateAt text text ⟨.begin, []⟩ = .start := by
  rw [stateAt, Nat.sub_self]
  rfl

/-- A machine reads a whole text as the readers do. -/
theorem halts_document (text : List Char) : Halts text .start (document.run (byteLength text) text).1 := by
  have hfollows := followsOn_document (List.suffix_refl text)
  rw [stateAt_start] at hfollows
  generalize document.run (byteLength text) text = outcome at hfollows ⊢
  match outcome with
  | (.ok (name, v), rest) =>
    obtain ⟨k, hreaches, rfl, rfl⟩ := hfollows
    exact ⟨_, hreaches, (step_stateAt List.nil_suffix).trans rfl⟩
  | (.error e, _) => exact hfollows

end SqlFormula.PortableText
