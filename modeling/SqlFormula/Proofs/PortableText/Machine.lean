import SqlFormula.PortableText.Read
import SqlFormula.Proofs.Token.Joining

/-!
# Portable text step by step

Readers of portable text are made of characters that are taken off a list, and the place that they have come to is what
is left of the list. Here the same text is read by a machine that holds the text as a whole and a position in it, in
bytes. A step takes the rest of the text from the position on, which is impossible inside a character and behind the end,
looks at its first characters and moves on by the bytes of a character or of a fixed text. What is still to be done is
kept in a task, and in a stack of the arrays and objects that are open around it.

## Main definitions

- `charactersFrom?` — the rest of a text from a byte on
- `Task`, `Frame`, `State` — what is being done, what it is done for, and where
- `step` — what a machine does next
- `State.Sound` — the places that a state knows are boundaries of characters, the fields of an object have different
  keys, and arrays and objects are not too deep

## Main statements

- `soundAfter_step` — a step never loses its place, keeps states sound, and lessens the work that is left
- `soundAfter_run` — so does every number of steps
- `exists_halted_of_work_lt` — and so there is an end
-/

namespace SqlFormula.PortableText

open Text (byteLength)

/-! ### Positions in bytes -/

/-- The characters of a text from a byte on; there are none inside a character and behind the end. -/
def charactersFrom? : Nat → List Char → Option (List Char)
  | 0, cs => some cs
  | _ + 1, [] => none
  | n + 1, c :: cs => if c.utf8Size ≤ n + 1 then charactersFrom? (n + 1 - c.utf8Size) cs else none

/-- A byte of a text on which a character begins or the text ends. -/
def IsBoundary (text : List Char) (place : Nat) : Prop :=
  ∃ front back, text = front ++ back ∧ byteLength front = place

theorem byteLength_cons (c : Char) (cs : List Char) : byteLength (c :: cs) = c.utf8Size + byteLength cs := by
  rw [byteLength_eq, byteLength_eq, String.utf8Len_cons, Nat.add_comm]

theorem charactersFrom?_append (front back : List Char) :
    charactersFrom? (byteLength front) (front ++ back) = some back := by
  induction front with
  | nil => exact charactersFrom?.eq_1 back
  | cons c front ih =>
    have hpos := c.utf8Size_pos
    obtain ⟨n, hn⟩ := Nat.exists_eq_add_one_of_ne_zero (Nat.add_pos_left hpos (byteLength front)).ne'
    have hrest : n + 1 - c.utf8Size = byteLength front := by omega
    rw [byteLength_cons, hn, List.cons_append, charactersFrom?, if_pos (by omega), hrest, ih]

theorem exists_append_of_charactersFrom? {n : Nat} {text rest : List Char} (h : charactersFrom? n text = some rest) :
    ∃ front, text = front ++ rest ∧ byteLength front = n := by
  induction text generalizing n with
  | nil =>
    cases n with
    | zero =>
      cases h
      exact ⟨[], rfl, rfl⟩
    | succ n => cases h
  | cons c text ih =>
    cases n with
    | zero =>
      cases h
      exact ⟨[], rfl, rfl⟩
    | succ n =>
      rw [charactersFrom?] at h
      split at h
      · next hle =>
        obtain ⟨front, rfl, hfront⟩ := ih h
        refine ⟨c :: front, rfl, ?_⟩
        rw [byteLength_cons, hfront]
        omega
      · cases h

/-- The rest of a text can be taken exactly where a character begins or the text ends. -/
theorem exists_charactersFrom?_iff {text : List Char} {n : Nat} :
    (∃ rest, charactersFrom? n text = some rest) ↔ IsBoundary text n := by
  constructor
  · rintro ⟨rest, hrest⟩
    obtain ⟨front, htext, hfront⟩ := exists_append_of_charactersFrom? hrest
    exact ⟨front, rest, htext, hfront⟩
  · rintro ⟨front, back, rfl, rfl⟩
    exact ⟨back, charactersFrom?_append front back⟩

theorem IsBoundary.le {text : List Char} {n : Nat} (h : IsBoundary text n) : n ≤ byteLength text := by
  obtain ⟨front, back, rfl, rfl⟩ := h
  rw [byteLength_append]
  exact Nat.le_add_right _ _

/-! ### Tasks and states -/

/-- An object of which fields are being read. -/
structure OpenObject where
  name : String
  /-- The fields so far, the last one first. -/
  fields : List (String × Value)

namespace OpenObject

/-- The keys of the fields so far. -/
def keys (o : OpenObject) : List String :=
  o.fields.map Prod.fst

/-- The object with one more field. -/
def add (o : OpenObject) (key : String) (v : Value) : OpenObject :=
  { o with fields := (key, v) :: o.fields }

/-- The object with the fields so far. -/
def value (o : OpenObject) : Value :=
  .object (Entries.ofList o.fields.reverse)

end OpenObject

/-- What characters are taken for. -/
inductive Purpose where
  /-- The text of a scalar, whose mark stands at an offset. -/
  | scalar (marker : Marker) (offset : Nat)
  | objectName
  /-- The key of a field, which starts at an offset. -/
  | key (o : OpenObject) (offset : Nat)

/-- Whether a character is one more of those that are taken. -/
def Purpose.more : Purpose → Char → Bool
  | .scalar _ _, c => c != '`'
  | _, c => c == '\\' || isNameChar c

/-- What is to be done next. -/
inductive Task where
  /-- Take blanks, and read the value of the text. -/
  | begin
  | value
  /-- Read an array or an object, where nothing else may be. -/
  | container
  /-- Take what stands between the mark of a scalar and its text. -/
  | opening (literal : String) (marker : Marker) (offset : Nat)
  | characters (purpose : Purpose) (taken : List Char)
  /-- Take the character after a backslash. -/
  | escaped (purpose : Purpose) (taken : List Char)
  /-- Take the bracket after the name of an object. -/
  | bracket (name : String)
  /-- Take blanks, and read another field. -/
  | fields (o : OpenObject)
  /-- Take what comes after the key of a field. -/
  | mark (o : OpenObject) (offset : Nat) (key : String)
  /-- Take blanks, and read another item. -/
  | items (taken : List Value)
  /-- Go on with what a value belongs to. -/
  | finished (name : String) (v : Value)
  /-- Take the blanks after the value of the text. -/
  | ended (name : String) (v : Value)

/-- What a value belongs to. -/
inductive Frame where
  | item (taken : List Value)
  /-- The field of an object, whose key starts at an offset. -/
  | field (o : OpenObject) (offset : Nat) (key : String)

/-- What is to be done, and what it is done for, the innermost first. -/
structure Control where
  task : Task
  frames : List Frame

/-- A machine that reads a text, at a byte of it. -/
structure State extends Control where
  position : Nat

/-- What a machine has come to. -/
inductive Progress where
  | next (s : State)
  | halted (result : Except FormatError (String × Value))
  /-- The rest of the text cannot be taken. -/
  | lost

namespace State

variable (s : State)

/-- Moves on by some bytes. -/
def move (bytes : Nat) (task : Task) (frames : List Frame) : Progress :=
  .next { task, frames, position := s.position + bytes }

/-- Takes a character. -/
def take (c : Char) (task : Task) : Progress :=
  s.move c.utf8Size task s.frames

/-- Goes on with something else at the same place. -/
def turn (task : Task) : Progress :=
  s.move 0 task s.frames

/-- Stops with an error about the place that has been reached. -/
def fail (e : Nat → FormatError) : Progress :=
  .halted (.error (e s.position))

/-- Takes the characters of a fixed text. -/
def expect (literal : String) (rest : List Char) (task : Task) : Progress :=
  if literal.toList.isPrefixOf rest then s.move literal.utf8ByteSize task s.frames
  else if rest.isPrefixOf literal.toList then s.fail (.truncated · (.literal literal))
  else s.fail (.malformed · (.notLiteral literal))

/-- Takes what an array or an object starts with, if it is not too deep. -/
def nest (start : String) (task : Task) : Progress :=
  if s.frames.length < nestingLimit then s.move start.utf8ByteSize task s.frames
  else s.fail (.malformed · .tooDeep)

/-- Begins an array or an object. -/
def enter (rest : List Char) : Progress :=
  if objectStart.toList.isPrefixOf rest then s.nest objectStart (.characters .objectName [])
  else if arrayStart.toList.isPrefixOf rest then s.nest arrayStart (.items [])
  else if rest.isPrefixOf objectStart.toList || rest.isPrefixOf arrayStart.toList then s.fail (.truncated · .container)
  else s.fail (.malformed · .notContainer)

/-- Goes on with the characters that have been taken, in front of one that is not taken or of the end. -/
def close (text : String) (rest : List Char) : Purpose → Progress
  | .scalar m offset =>
    match rest with
    | [] => s.fail (.truncated · .quote)
    | c :: _ =>
      match scalarValue? m text with
      | some v => s.take c (.finished "" v)
      | none => .halted (.error (.invalidScalar offset m text))
  | .objectName => s.turn (.bracket text)
  | .key o offset => s.turn (.mark o offset text)

/-- Adds a value to what it belongs to. -/
def deliver (name : String) (v : Value) : Progress :=
  match s.frames with
  | [] => s.turn (.ended name v)
  | .item taken :: frames => s.move 0 (.items (v :: taken)) frames
  | .field o offset key :: frames =>
    if key ∈ o.keys then .halted (.error (.duplicateKey offset key))
    else s.move 0 (.fields (o.add key v)) frames

/-- Does what is to be done in front of the rest of the text. -/
def perform (rest : List Char) : Progress :=
  match s.task with
  | .begin =>
    match rest.head?.filter Text.isBlank with
    | some c => s.take c .begin
    | none => s.turn .value
  | .value =>
    match rest.head? with
    | none => s.fail (.truncated · .value)
    | some c =>
      if c = '@' then s.enter rest
      else match Marker.ofSymbol? c with
        | some m => s.take c (.opening "`" m s.position)
        | none => s.fail (.unknownMarker · c)
  | .container =>
    match rest.head? with
    | none => s.fail (.truncated · .container)
    | some c => if c = '@' then s.enter rest else s.fail (.malformed · .notContainer)
  | .opening literal m offset => s.expect literal rest (.characters (.scalar m offset) [])
  | .characters purpose taken =>
    match rest.head?.filter purpose.more with
    | some c => s.take c (if c = '\\' then .escaped purpose taken else .characters purpose (c :: taken))
    | none => s.close (String.ofList taken.reverse) rest purpose
  | .escaped purpose taken =>
    match rest.head? with
    | none => s.fail (.truncated · .escaped)
    | some c => s.take c (.characters purpose (c :: taken))
  | .bracket name => s.expect "<" rest (.fields { name, fields := [] })
  | .fields o =>
    match rest.head? with
    | none => s.fail (.truncated · .objectEnd)
    | some c =>
      if Text.isBlank c then s.take c (.fields o)
      else if c = '>' then s.take c (.finished o.name o.value)
      else s.turn (.characters (.key o s.position) [])
  | .mark o offset key =>
    match rest.head? with
    | none => s.fail (.truncated · .marker)
    | some c =>
      let frames := .field o offset key :: s.frames
      if c = '=' then s.move c.utf8Size .container frames
      else match Marker.ofSymbol? c with
        | some m => s.move c.utf8Size (.opening "=`" m s.position) frames
        | none => s.fail (.unknownMarker · c)
  | .items taken =>
    match rest.head? with
    | none => s.fail (.truncated · .arrayEnd)
    | some c =>
      if Text.isBlank c then s.take c (.items taken)
      else if c = ']' then s.take c (.finished "" (.array taken.reverse))
      else s.move 0 .value (.item taken :: s.frames)
  | .finished name v => s.deliver name v
  | .ended name v =>
    match rest.head? with
    | none => .halted (.ok (name, v))
    | some c => if Text.isBlank c then s.take c (.ended name v) else s.fail (.malformed · .trailing)

end State

/-- Takes the rest of a text from the position of a machine on, and does what is to be done there. -/
def step (text : List Char) (s : State) : Progress :=
  match charactersFrom? s.position text with
  | some rest => s.perform rest
  | none => .lost

/-- What a machine has come to after so many steps, unless it has stopped before. -/
def run (text : List Char) : Nat → State → Progress
  | 0, s => .next s
  | n + 1, s =>
    match step text s with
    | .next s' => run text n s'
    | .halted result => .halted result
    | .lost => .lost

/-- A machine at the beginning of a text. -/
def State.start : State where
  task := .begin
  frames := []
  position := 0

/-! ### Sound states -/

/-- How often a machine can go on with something else before it takes a character. -/
def Task.rank : Task → Nat
  | .finished _ _ => 3
  | .begin | .fields _ | .items _ => 2
  | .characters _ _ => 1
  | _ => 0

/-- How many arrays and objects have been entered for a purpose but for those in the frames. -/
def Purpose.depth : Purpose → Nat
  | .scalar _ _ => 0
  | _ => 1

/-- How many arrays and objects have been entered for a task but for those in the frames. -/
def Task.depth : Task → Nat
  | .characters purpose _ | .escaped purpose _ => purpose.depth
  | .bracket _ | .fields _ | .mark _ _ _ | .items _ => 1
  | _ => 0

/-- How many arrays and objects are open. -/
def State.depth (s : State) : Nat :=
  s.frames.length + s.task.depth

variable {text : List Char} {s s' : State}

/-- The places that a purpose knows are boundaries, and the fields of its object have different keys. -/
def Purpose.Sound (text : List Char) : Purpose → Prop
  | .scalar _ offset => IsBoundary text offset
  | .objectName => True
  | .key o offset => IsBoundary text offset ∧ o.keys.Nodup

/-- The places that a task knows are boundaries, and the fields of its object have different keys. -/
def Task.Sound (text : List Char) : Task → Prop
  | .opening literal _ offset => literal.toList ≠ [] ∧ IsBoundary text offset
  | .characters purpose _ | .escaped purpose _ => purpose.Sound text
  | .fields o => o.keys.Nodup
  | .mark o offset _ => IsBoundary text offset ∧ o.keys.Nodup
  | _ => True

/-- The places that a frame knows are boundaries, and the fields of its object have different keys. -/
def Frame.Sound (text : List Char) : Frame → Prop
  | .item _ => True
  | .field o offset _ => IsBoundary text offset ∧ o.keys.Nodup

/-- All places that a machine knows are boundaries, all fields of an object have different keys, and arrays and objects
are not too deep. -/
structure State.Sound (text : List Char) (s : State) : Prop where
  position : IsBoundary text s.position
  task : s.task.Sound text
  frames : ∀ f ∈ s.frames, f.Sound text
  depth : s.depth ≤ nestingLimit

/-- A bound for the steps that are left. -/
def State.work (text : List Char) (s : State) : Nat :=
  4 * (byteLength text - s.position) + s.task.rank

/-- After some steps from a state a machine is in a sound state with as much less work left, or has stopped. -/
def Progress.SoundAfter (text : List Char) (steps : Nat) (s : State) : Progress → Prop
  | .next s' => s'.Sound text ∧ s'.work text + steps ≤ s.work text
  | .halted (.ok _) => True
  | .halted (.error e) => IsBoundary text e.offset
  | .lost => False

/-! ### One step -/

theorem Task.rank_le (task : Task) : task.rank ≤ 3 := by
  cases task <;> simp [rank]

namespace State.Sound

variable {front back rest : List Char} {c : Char} {task : Task} {frames : List Frame} (h : s.Sound text)
include h

/-- Some characters are taken. -/
theorem move (hrest : charactersFrom? s.position text = some (front ++ back)) (hfront : front ≠ [])
    (htask : task.Sound text) (hframes : ∀ f ∈ frames, f.Sound text)
    (hdepth : frames.length + task.depth ≤ nestingLimit) :
    (s.move (byteLength front) task frames).SoundAfter text 1 s := by
  obtain ⟨before, rfl, hbefore⟩ := exists_append_of_charactersFrom? hrest
  have hpos : 0 < byteLength front := by
    obtain ⟨c, cs, rfl⟩ := List.exists_cons_of_ne_nil hfront
    rw [byteLength_cons]
    exact Nat.add_pos_left c.utf8Size_pos _
  have hle := task.rank_le
  refine ⟨⟨⟨before ++ front, back, (List.append_assoc _ _ _).symm, ?_⟩, htask, hframes, hdepth⟩, ?_⟩
  · rw [byteLength_append, hbefore]
  · simp only [work, byteLength_append, hbefore]
    omega

theorem move_one (hrest : charactersFrom? s.position text = some rest) (hc : c ∈ rest.head?) (htask : task.Sound text)
    (hframes : ∀ f ∈ frames, f.Sound text) (hdepth : frames.length + task.depth ≤ nestingLimit) :
    (s.move c.utf8Size task frames).SoundAfter text 1 s := by
  obtain ⟨cs, rfl⟩ := List.head?_eq_some_iff.1 hc
  have hsize : byteLength [c] = c.utf8Size := by rw [byteLength_cons]; rfl
  rw [← hsize]
  exact h.move hrest (List.cons_ne_nil c []) htask hframes hdepth

/-- The next character is taken, in the same frames. -/
theorem take (hrest : charactersFrom? s.position text = some rest) (hc : c ∈ rest.head?) (htask : task.Sound text)
    (hdepth : task.depth ≤ s.task.depth) : (s.take c task).SoundAfter text 1 s :=
  h.move_one hrest hc htask h.frames ((Nat.add_le_add_left hdepth _).trans h.depth)

/-- Something else is done at the same place. -/
theorem turn (hrank : task.rank < s.task.rank) (htask : task.Sound text) (hframes : ∀ f ∈ frames, f.Sound text)
    (hdepth : frames.length + task.depth ≤ nestingLimit) : (s.move 0 task frames).SoundAfter text 1 s :=
  ⟨⟨h.position, htask, hframes, hdepth⟩, Nat.add_lt_add_left hrank _⟩

theorem fail {e : Nat → FormatError} (he : ∀ place, (e place).offset = place) : (s.fail e).SoundAfter text 1 s := by
  show IsBoundary text (e s.position).offset
  rw [he]
  exact h.position

theorem expect (hrest : charactersFrom? s.position text = some rest) {literal : String} (hliteral : literal.toList ≠ [])
    (htask : task.Sound text) (hdepth : task.depth ≤ s.task.depth) :
    (s.expect literal rest task).SoundAfter text 1 s := by
  have hdeep := h.depth
  rw [State.depth] at hdeep
  rw [State.expect]
  split
  · next hstarts =>
    obtain ⟨back, rfl⟩ := List.isPrefixOf_iff_prefix.1 hstarts
    rw [← byteLength_toList]
    exact h.move hrest hliteral htask h.frames (by omega)
  · split
    · exact h.fail fun _ => rfl
    · exact h.fail fun _ => rfl

theorem nest (hrest : charactersFrom? s.position text = some rest) {start : String} (hstart : start.toList ≠ [])
    (hstarts : start.toList.isPrefixOf rest) (htask : task.Sound text) (hdepth : task.depth = 1) :
    (s.nest start task).SoundAfter text 1 s := by
  obtain ⟨back, rfl⟩ := List.isPrefixOf_iff_prefix.1 hstarts
  rw [State.nest]
  split
  · rw [← byteLength_toList]
    exact h.move hrest hstart htask h.frames (by omega)
  · exact h.fail fun _ => rfl

theorem enter (hrest : charactersFrom? s.position text = some rest) : (s.enter rest).SoundAfter text 1 s := by
  rw [State.enter]
  split
  · next hstarts => exact h.nest hrest (by decide) hstarts trivial rfl
  · split
    · next hstarts => exact h.nest hrest (by decide) hstarts trivial rfl
    · split
      · exact h.fail fun _ => rfl
      · exact h.fail fun _ => rfl

theorem close (hrest : charactersFrom? s.position text = some rest) {purpose : Purpose} {taken : List Char}
    (htask : s.task = .characters purpose taken) (word : String) : (s.close word rest purpose).SoundAfter text 1 s := by
  have hpurpose : purpose.Sound text := by
    have := h.task
    rwa [htask] at this
  have hdeep := h.depth
  rw [State.depth, htask] at hdeep
  cases purpose with
  | scalar m offset =>
    cases rest with
    | nil => exact h.fail (e := (.truncated · .quote)) fun _ => rfl
    | cons c rest =>
      show Progress.SoundAfter text 1 s (match scalarValue? m word with | some v => _ | none => _)
      cases scalarValue? m word with
      | some v => exact h.take hrest rfl trivial (Nat.zero_le _)
      | none => exact hpurpose
  | objectName => exact h.turn (by simp [htask, Task.rank]) trivial h.frames hdeep
  | key o offset => exact h.turn (by simp [htask, Task.rank]) hpurpose h.frames hdeep

/-- A value joins an array, or an object in which no field has its key. -/
theorem deliver {name : String} {v : Value} (htask : s.task = .finished name v) :
    (s.deliver name v).SoundAfter text 1 s := by
  have hframes := h.frames
  have hdeep := h.depth
  rw [State.depth, htask] at hdeep
  rw [State.deliver]
  split
  · next hnone =>
    exact h.turn (by simp [htask, Task.rank]) trivial hframes (by simp [hnone, Task.depth])
  · next taken frames hitem =>
    rw [hitem] at hframes hdeep
    exact h.turn (by simp [htask, Task.rank]) trivial (List.forall_mem_cons.1 hframes).2 hdeep
  · next o offset key frames hfield =>
    rw [hfield] at hframes hdeep
    obtain ⟨⟨hoffset, hkeys⟩, hothers⟩ := List.forall_mem_cons.1 hframes
    split
    · exact hoffset
    · next hnew =>
      exact h.turn (by simp [htask, Task.rank]) (List.nodup_cons.2 ⟨hnew, hkeys⟩) hothers hdeep

theorem perform (hrest : charactersFrom? s.position text = some rest) : (s.perform rest).SoundAfter text 1 s := by
  have htask := h.task
  have hdeep := h.depth
  rw [State.depth] at hdeep
  obtain ⟨⟨task, frames⟩, position⟩ := s
  -- each task fails, takes characters, or turns to one of smaller rank at the same place
  cases task with
  | begin =>
    simp only [State.perform]
    split
    · next c hc => exact h.take hrest (Option.filter_eq_some_iff.1 hc).1 trivial (Nat.zero_le _)
    · exact h.turn (by simp [Task.rank]) trivial h.frames hdeep
  | value =>
    simp only [State.perform]
    split
    · exact h.fail fun _ => rfl
    · next c hc =>
      split
      · exact h.enter hrest
      · split
        · exact h.take hrest hc ⟨by decide, h.position⟩ (Nat.zero_le _)
        · exact h.fail fun _ => rfl
  | container =>
    simp only [State.perform]
    split
    · exact h.fail fun _ => rfl
    · split
      · exact h.enter hrest
      · exact h.fail fun _ => rfl
  | opening literal m offset => exact h.expect hrest htask.1 htask.2 (Nat.le_refl _)
  | characters purpose taken =>
    simp only [State.perform]
    split
    · next c hc =>
      refine h.take hrest (Option.filter_eq_some_iff.1 hc).1 ?_ ?_
      · split
        · exact htask
        · exact htask
      · split
        · exact Nat.le_refl _
        · exact Nat.le_refl _
    · exact h.close hrest rfl _
  | escaped purpose taken =>
    simp only [State.perform]
    split
    · exact h.fail fun _ => rfl
    · next c hc => exact h.take hrest hc htask (Nat.le_refl _)
  | bracket name => exact h.expect hrest (by decide) List.nodup_nil (Nat.le_refl _)
  | fields o =>
    simp only [State.perform]
    split
    · exact h.fail fun _ => rfl
    · next c hc =>
      split
      · exact h.take hrest hc htask (Nat.le_refl _)
      · split
        · exact h.take hrest hc trivial (Nat.zero_le _)
        · exact h.turn (by simp [Task.rank]) ⟨h.position, htask⟩ h.frames hdeep
  | mark o offset key =>
    simp only [State.perform]
    split
    · exact h.fail fun _ => rfl
    · next c hc =>
      have hframes : ∀ f ∈ .field o offset key :: frames, f.Sound text := List.forall_mem_cons.2 ⟨htask, h.frames⟩
      split
      · exact h.move_one hrest hc trivial hframes hdeep
      · split
        · exact h.move_one hrest hc ⟨by decide, h.position⟩ hframes hdeep
        · exact h.fail fun _ => rfl
  | items taken =>
    simp only [State.perform]
    split
    · exact h.fail fun _ => rfl
    · next c hc =>
      split
      · exact h.take hrest hc trivial (Nat.le_refl _)
      · split
        · exact h.take hrest hc trivial (Nat.zero_le _)
        · exact h.turn (by simp [Task.rank]) trivial (List.forall_mem_cons.2 ⟨trivial, h.frames⟩) hdeep
  | finished name v => exact h.deliver rfl
  | ended name v =>
    simp only [State.perform]
    split
    · trivial
    · next c hc =>
      split
      · exact h.take hrest hc trivial (Nat.zero_le _)
      · exact h.fail fun _ => rfl

end State.Sound

/-- A machine in a sound state does not lose its place, and comes closer to the end. -/
theorem soundAfter_step (h : s.Sound text) : (step text s).SoundAfter text 1 s := by
  obtain ⟨rest, hrest⟩ := exists_charactersFrom?_iff.2 h.position
  rw [step, hrest]
  exact h.perform hrest

/-! ### Many steps -/

theorem State.sound_start (text : List Char) : State.start.Sound text where
  position := ⟨[], text, rfl, rfl⟩
  task := trivial
  frames := nofun
  depth := by decide

theorem Progress.SoundAfter.add {progress : Progress} {m n : Nat} (h : progress.SoundAfter text n s')
    (hwork : s'.work text + m ≤ s.work text) : progress.SoundAfter text (n + m) s := by
  cases progress with
  | next s'' =>
    obtain ⟨hsound, hless⟩ := h
    exact ⟨hsound, by omega⟩
  | halted result =>
    cases result with
    | ok _ => trivial
    | error e => exact h
  | lost => exact h

/-- After any number of steps a machine is in a sound state, or has stopped. -/
theorem soundAfter_run (h : s.Sound text) (n : Nat) : (run text n s).SoundAfter text n s := by
  induction n generalizing s with
  | zero => exact ⟨h, Nat.le_refl _⟩
  | succ n ih =>
    have hstep := soundAfter_step h
    rw [run]
    generalize step text s = progress at hstep
    cases progress with
    | next s' => exact (ih hstep.1).add hstep.2
    | halted result =>
      cases result with
      | ok _ => trivial
      | error e => exact hstep
    | lost => exact hstep

/-- A machine stops before it has done more steps than there was work. -/
theorem exists_halted_of_work_lt (h : s.Sound text) {n : Nat} (hn : s.work text < n) :
    ∃ result, run text n s = .halted result := by
  have hrun := soundAfter_run h n
  generalize run text n s = progress at hrun
  cases progress with
  | next s' =>
    have := hrun.2
    omega
  | halted result => exact ⟨result, rfl⟩
  | lost => exact hrun.elim

end SqlFormula.PortableText
