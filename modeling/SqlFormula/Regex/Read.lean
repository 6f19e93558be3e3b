import SqlFormula.Regex.Bracket

/-!
# Reading regular expressions

The notation is the common one: classes in brackets with set operations, groups with names and modes, counted
repetitions, properties of Unicode, and conditions on places. Modes hold to the end of their group. Groups
that look ahead or behind are refused.

## Main definitions

- `Piece` — a part of an expression, and how deep it nests
- `alternation` — the reader of expressions
- `Pattern.read?` — an expression from its text
-/

namespace SqlFormula.Regex

open Reader

/-- Expressions nest at most this deep. -/
def nestingLimit : Nat := 250

/-- The largest number of repetitions that can be asked for. -/
def countLimit : Nat := 4294967295

/-- A part of an expression. -/
structure Piece where
  pattern : Pattern
  /-- How deep it nests. -/
  depth : Nat
  /-- Whether it can be repeated: a change of modes cannot. -/
  repeatable : Bool

namespace Piece

/-- A part without parts of its own. -/
def leaf (p : Pattern) : Piece :=
  ⟨p, 0, true⟩

/-- A change of modes, which stands for nothing. -/
def modes : Piece :=
  ⟨.empty, 0, false⟩

/-- The depth of some parts together: two or more are a level of their own. -/
def joinedDepth (ps : List Piece) : Nat :=
  let deepest := (ps.map Piece.depth).foldl max 0
  if ps.length < 2 then deepest else deepest + 1

/-- Parts one after the other. -/
def sequence (ps : List Piece) : Piece :=
  ⟨.sequence (ps.map Piece.pattern), joinedDepth ps, true⟩

/-- One of some parts. -/
def choice (ps : List Piece) : Piece :=
  ⟨.choice (ps.map Piece.pattern), joinedDepth ps, true⟩

/-- A part in parentheses. -/
def group (p : Piece) : Piece :=
  ⟨p.pattern, p.depth + 1, true⟩

/-- A part in parentheses that are counted. -/
def capture (p : Piece) : Piece :=
  ⟨.capture p.pattern, p.depth + 1, true⟩

/-- A part that is repeated. -/
def repeated (least : Nat) (most : Option Nat) (p : Piece) : Piece :=
  ⟨p.pattern.repeated least most, p.depth + 1, true⟩

end Piece

/-- An expression that has been read as far as some place. -/
structure ReadSoFar where
  flags : Flags
  /-- The names of groups. -/
  names : List String
  /-- The parts since the last bar, last first. -/
  items : List Piece
  /-- What stands before the bars, last first. -/
  branches : List Piece

namespace ReadSoFar

/-- Adds a part. -/
def add (p : Piece) (sofar : ReadSoFar) : ReadSoFar :=
  { sofar with items := p :: sofar.items }

/-- Goes on after a bar. -/
def branch (sofar : ReadSoFar) : ReadSoFar :=
  { sofar with items := [], branches := .sequence sofar.items.reverse :: sofar.branches }

/-- Everything together. -/
def whole (sofar : ReadSoFar) : Piece :=
  .choice sofar.branch.branches.reverse

/-- Repeats the last part, if it can be repeated. -/
def repeatLast (least : Nat) (most : Option Nat) (sofar : ReadSoFar) : RegexReader ReadSoFar :=
  match sofar.items with
  | p :: ps =>
    if p.repeatable then pure { sofar with items := p.repeated least most :: ps } else reject
  | [] => reject

end ReadSoFar

/-! ### Characters -/

/-- The characters that `.` matches. -/
def dotSet (f : Flags) : CharSet :=
  if f.dotAll then .range 0 0x10FFFF
  else if f.crlf then .complement (.union (.char '\n') (.char '\r'))
  else .complement (.char '\n')

/-- A character as the modes want it. -/
def literal (f : Flags) (c : Char) (isByte : Bool) : RegexReader Pattern :=
  if !f.unicode && isByte && 0x80 ≤ c.toNat then reject
  else if !f.caseless then pure (.set (.char c))
  else if f.unicode then
    pure (.set (if (Text.caseVariants c).length = 1 then .char c else .caseless (.char c)))
  else if 0x80 ≤ c.toNat then reject
  else pure (.set (if c.isAlpha then .asciiCaseless (.char c) else .char c))

/-- What an escape matches. -/
def escapePattern (f : Flags) : Escape → RegexReader Pattern
  | .literal c isByte => literal f c isByte
  | .set s => pure (.set s)
  | .look l => pure (.look l)

/-- Reads a part that begins with a character without a meaning for the structure. -/
def primitive (f : Flags) (c : Char) : RegexReader Pattern := do
  match c with
  | '.' => if f.unicode then pure (.set (dotSet f)) else reject
  | '^' => pure (.look (if f.multiLine then .lineStart f.crlf else .textStart))
  | '$' => pure (.look (if f.multiLine then .lineEnd f.crlf else .textEnd))
  | '\\' => escapePattern f (← escape f)
  | c => literal f c false

/-! ### Repetitions -/

/-- Reads a number, with blanks around it. -/
def count (f : Flags) : RegexReader Nat := do
  let _ ← takeWhile Text.isBlank
  let digits ← loop (fun cs => cs.head?.filter Char.isDigit)
    (fun c digits => do
      skip 1
      gap f
      pure (c :: digits))
    (fun _ _ => (Consuming.skip 0).bind_left _) []
  let _ ← takeWhile Text.isBlank
  gap f
  let n := digits.reverse.foldl (fun n c => 10 * n + (c.toNat - '0'.toNat)) 0
  if digits.isEmpty || countLimit < n then reject else pure n

/-- Reads the numbers of a counted repetition, after its opening brace. -/
def bounds (f : Flags) : RegexReader (Nat × Option Nat) := do
  gap f
  let least ← count f
  let most ←
    if ← eat ',' then
      gap f
      if (← peek?) = some '\x7d' then pure none
      else return (least, some (← closing (← count f)))
    else pure (some least)
  closing (least, most)
where
  closing {α : Type} (a : α) : RegexReader α := do
    if ← eat '\x7d' then pure a else reject

/-- Reads a counted repetition, after its opening brace. -/
def counted (f : Flags) (sofar : ReadSoFar) : RegexReader ReadSoFar := do
  let (least, most) ← bounds f
  gap f
  let _ ← eat '?'
  if (most.map fun n => decide (n < least)) = some true then reject
  else sofar.repeatLast least most

/-- Reads the rest of a repetition with a sign of its own. -/
def signed (least : Nat) (most : Option Nat) (sofar : ReadSoFar) : RegexReader ReadSoFar := do
  let _ ← eat '?'
  sofar.repeatLast least most

/-! ### Groups -/

/-- How a group begins. -/
inductive Opening where
  /-- A group that is counted. -/
  | capture (name : Option String)
  /-- A group with modes of its own. -/
  | scope (f : Flags)
  /-- No group, but modes for the rest of the one around it. -/
  | modes (f : Flags)

/-- Whether a name can begin with a character. -/
def isNameStart (c : Char) : Bool :=
  c == '_' || Text.isAlphabetic c

/-- Whether a name can go on with a character. -/
def isNameChar (c : Char) : Bool :=
  c == '_' || c == '.' || c == '[' || c == ']' || Text.isAlphanumeric c

/-- Reads the name of a group and the sign after it. -/
def groupName : RegexReader String := do
  let name ← takeWhile (· != '>')
  if ← eat '>' then
    match name with
    | [] => reject
    | c :: cs => if isNameStart c && cs.all isNameChar then pure (String.ofList name) else reject
  else reject

/-- The beginnings of groups that look ahead or behind. -/
def lookaround : List (List Char) :=
  ["?=".toList, "?!".toList, "?<=".toList, "?<!".toList]

/-- Reads how a group begins, after its parenthesis. -/
def opening (f : Flags) : RegexReader Opening := do
  gap f
  let cs ← ahead
  if lookaround.any fun start => start.isPrefixOf cs then reject
  else if ← eatAll "?P<".toList then return .capture (some (← groupName))
  else if ← eatAll "?<".toList then return .capture (some (← groupName))
  else if ← eat '?' then
    let letters ← takeWhile fun c => c != ':' && c != ')'
    let g ← orReject (f.change? [] letters)
    if ← eat ':' then return .scope g
    else if letters.isEmpty then reject
    else if ← eat ')' then return .modes g
    else reject
  else return .capture none

/-- Takes the parenthesis at the end of a group. -/
def closeGroup {α : Type} (a : α) : RegexReader α := do
  if ← eat ')' then pure a else reject

/-- Reads a group after its parenthesis; `inner` reads the expression in it. -/
def group (inner : Flags → List String → RegexReader (Piece × List String)) (sofar : ReadSoFar) :
    RegexReader ReadSoFar := do
  match ← opening sofar.flags with
  | .modes f => return { sofar.add .modes with flags := f }
  | .scope f =>
    let (p, names) ← inner f sofar.names
    closeGroup { sofar.add p.group with names := names }
  | .capture none =>
    let (p, names) ← inner sofar.flags sofar.names
    closeGroup { sofar.add p.capture with names := names }
  | .capture (some name) =>
    if sofar.names.contains name then reject
    else
      let (p, names) ← inner sofar.flags (name :: sofar.names)
      closeGroup { sofar.add p.capture with names := names }

/-! ### Expressions -/

/-- Reads the next part of an expression, given its first character. -/
def readStep (inner : Flags → List String → RegexReader (Piece × List String)) (c : Char) (sofar : ReadSoFar) :
    RegexReader ReadSoFar := do
  skip 1
  let f := sofar.flags
  if f.verbose && Text.isBlank c then return sofar
  else if f.verbose && c == '#' then
    let _ ← takeWhile (· != '\n')
    return sofar
  else match c with
    | '(' => group inner sofar
    | '|' => return sofar.branch
    | '[' =>
      let (s, depth) ← bracket f nestingLimit
      return sofar.add ⟨.set s, depth, true⟩
    | '?' => signed 0 (some 1) sofar
    | '*' => signed 0 none sofar
    | '+' => signed 1 none sofar
    | '\x7b' => counted f sofar
    | c => return sofar.add (.leaf (← primitive f c))

theorem consuming_readStep (inner : Flags → List String → RegexReader (Piece × List String)) (c : Char)
    (sofar : ReadSoFar) : (readStep inner c sofar).Consuming :=
  (Consuming.skip 0).bind_left _

/-- Reads an expression up to the end of its group, in which groups nest less than `level` deep. Gives the
expression and the names of all groups so far. -/
def alternation : Nat → Flags → List String → RegexReader (Piece × List String)
  | 0, _, _ => reject
  | level + 1, f, names => do
    let sofar ← loop (fun cs => cs.head?.filter (· != ')')) (readStep (alternation level))
      (consuming_readStep _) { flags := f, names := names, items := [], branches := [] }
    return (sofar.whole, sofar.names)

/-- The expression that a text stands for. -/
def Pattern.read? (caseless : Bool) (text : List Char) : Option Pattern :=
  match (alternation (nestingLimit + 1) (.initial caseless) []).run 0 text with
  | (.ok (p, _), []) => if p.depth ≤ nestingLimit then some p.pattern else none
  | _ => none

end SqlFormula.Regex
