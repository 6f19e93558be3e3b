import SqlFormula.Regex.Escape

/-!
# Classes in brackets

A class is written as its members in brackets: characters, ranges, escapes, and other classes, with operators
between sets. Classes can be denied, and modes apply to them as a whole.

## Main definitions

- `ClassSoFar` — a class of which a part has been read
- `bracket` — the reader of a class after its opening bracket
-/

namespace SqlFormula.Regex

open Reader

/-- The operations between the sets of a class. -/
inductive SetOperator where
  | intersection
  | difference
  | symmetricDifference

/-- A class that has been read as far as some place: the set before the last operator, and the sets since,
last first. -/
structure ClassSoFar where
  before : Option (SetOperator × CharSet)
  sets : List CharSet
  /-- How deep the set before the last operator nests. -/
  depthBefore : Nat
  /-- The depth of the deepest class among the sets since. -/
  depth : Nat

namespace ClassSoFar

/-- A class with only these sets so far. -/
def ofSets (sets : List CharSet) : ClassSoFar where
  before := none
  sets := sets
  depthBefore := 0
  depth := 0

/-- A set where both sides of an operator are brought to the modes. -/
def fold (f : Flags) (s : CharSet) : CharSet :=
  foldAndNegate f false s

/-- The set of everything so far. -/
def total (f : Flags) (c : ClassSoFar) : CharSet :=
  let since := CharSet.unions c.sets.reverse
  match c.before with
  | none => since
  | some (.intersection, s) => .intersection (fold f s) (fold f since)
  | some (.difference, s) => .difference (fold f s) (fold f since)
  | some (.symmetricDifference, s) => .symmetricDifference (fold f s) (fold f since)

/-- How deep everything so far nests: a union of two sets or more and an operator are levels of their own. -/
def totalDepth (c : ClassSoFar) : Nat :=
  let since := if c.sets.length < 2 then c.depth else c.depth + 1
  if c.before.isNone then since else max c.depthBefore since + 1

/-- Goes on after an operator. -/
def operate (f : Flags) (op : SetOperator) (c : ClassSoFar) : ClassSoFar where
  before := some (op, c.total f)
  sets := []
  depthBefore := c.totalDepth
  depth := 0

/-- Adds a set. -/
def add (s : CharSet) (c : ClassSoFar) : ClassSoFar :=
  { c with sets := s :: c.sets }

/-- Adds a class that nests this deep. -/
def addNested (s : CharSet) (depth : Nat) (c : ClassSoFar) : ClassSoFar :=
  { c.add s with depth := max c.depth depth }

end ClassSoFar

/-- The set of a name between `[:` and `:]`. -/
def asciiClass? : String → Option CharSet
  | "alnum" => some (CharSet.unions [.range 0x30 0x39, .range 0x41 0x5A, .range 0x61 0x7A])
  | "alpha" => some (CharSet.unions [.range 0x41 0x5A, .range 0x61 0x7A])
  | "ascii" => some (.range 0 0x7F)
  | "blank" => some (CharSet.unions [.char '\t', .char ' '])
  | "cntrl" => some (CharSet.unions [.range 0 0x1F, .range 0x7F 0x7F])
  | "digit" => some (.range 0x30 0x39)
  | "graph" => some (.range 0x21 0x7E)
  | "lower" => some (.range 0x61 0x7A)
  | "print" => some (.range 0x20 0x7E)
  | "punct" =>
    some (CharSet.unions [.range 0x21 0x2F, .range 0x3A 0x40, .range 0x5B 0x60, .range 0x7B 0x7E])
  | "space" => some CharSet.asciiBlank
  | "upper" => some (.range 0x41 0x5A)
  | "word" => some CharSet.asciiWord
  | "xdigit" => some (CharSet.unions [.range 0x30 0x39, .range 0x41 0x46, .range 0x61 0x66])
  | _ => none

/-- The class between `[:` and `:]` at the front of a text after its first bracket: the name, whether it is
denied, and how many characters it takes. -/
def namedClass? : List Char → Option (CharSet × Bool × Nat)
  | ':' :: cs =>
    let negated := cs.head? = some '^'
    let cs := if negated then cs.tail else cs
    let name := cs.takeWhile (· != ':')
    if [':', ']'].isPrefixOf (cs.dropWhile (· != ':')) then
      (asciiClass? (String.ofList name)).map fun s =>
        (s, decide negated, name.length + (if negated then 4 else 3))
    else none
  | _ => none

/-- A character of a class; ASCII mode takes only those of ASCII. -/
def classLiteral (f : Flags) (c : Char) : RegexReader Char :=
  if f.unicode || c.toNat < 0x80 then pure c else reject

/-- The set of an escape in a class. -/
def escapeSet (f : Flags) : Escape → RegexReader CharSet
  | .literal c _ => return .char (← classLiteral f c)
  | .set s => pure s
  | .look _ => reject

/-- The character of an escape at the end of a range. -/
def escapeChar (f : Flags) : Escape → RegexReader Char
  | .literal c _ => classLiteral f c
  | _ => reject

/-- Reads one end of a range, or a single member, given its first character. -/
def classMember (f : Flags) (c : Char) : RegexReader Escape :=
  if c = '\\' then escape f else pure (.literal c false)

/-- Whether a hyphen comes next that makes a range: neither the end of the class nor another hyphen follows it. -/
def isRangeAhead (f : Flags) : List Char → Bool
  | '-' :: rest =>
    match (if f.verbose then dropVerbose rest else rest).head? with
    | some c => c != ']' && c != '-'
    | none => true
  | _ => false

/-- Reads a member or a range of a class, given its first character. -/
def classItem (f : Flags) (c : Char) : RegexReader CharSet := do
  let first ← classMember f c
  gap f
  if isRangeAhead f (← ahead) then
    skip 1
    gap f
    let last ← classMember f (← anyChar)
    let low ← escapeChar f first
    let high ← escapeChar f last
    if low ≤ high then pure (.range low.toNat high.toNat) else reject
  else escapeSet f first

/-- A set, which must not be denied in ASCII mode. -/
def denied (f : Flags) (negated : Bool) (s : CharSet) : RegexReader CharSet :=
  if negated && !f.unicode then reject else pure (foldAndNegate f negated s)

/-- Reads hyphens at the beginning of a class, which stand for themselves. -/
def leadingHyphens (f : Flags) : RegexReader (List CharSet) :=
  loop (fun cs => if cs.head? = some '-' then some () else none)
    (fun _ sets => do
      skip 1
      gap f
      pure (.char '-' :: sets))
    (fun _ _ => (Consuming.skip 0).bind_left _) []

/-- Reads the beginning of a class after its bracket: whether it is denied, and the members that would have a
meaning of their own elsewhere. -/
def classStart (f : Flags) : RegexReader (Bool × ClassSoFar) := do
  gap f
  let negated ← eat '^'
  gap f
  let hyphens ← leadingHyphens f
  if hyphens.isEmpty then
    if ← eat ']' then
      gap f
      return (negated, .ofSets [.char ']'])
  return (negated, .ofSets hyphens)

/-- Reads a class that starts inside a class, after its first bracket. -/
def innerClass (f : Flags) (inner : RegexReader (CharSet × Nat)) (sofar : ClassSoFar) :
    RegexReader ClassSoFar := do
  match namedClass? (← ahead) with
  | some (s, negated, taken) =>
    skip taken
    return sofar.add (← denied f negated s)
  | none =>
    let (s, depth) ← inner
    return sofar.addNested s depth

/-- Takes a doubled character: whether the next one is the same as `c`. -/
def isDoubled (c : Char) : RegexReader Bool := do
  if "&-~".toList.contains c then eat c else pure false

/-- The operator that a character stands for when it is doubled. -/
def setOperator (c : Char) : SetOperator :=
  if c = '&' then .intersection else if c = '-' then .difference else .symmetricDifference

/-- Reads the next part of a class, given its first character. -/
def classStep (f : Flags) (inner : RegexReader (CharSet × Nat)) (c : Char) (sofar : ClassSoFar) :
    RegexReader ClassSoFar := do
  skip 1
  if f.verbose && Text.isBlank c then return sofar
  else if f.verbose && c == '#' then
    let _ ← takeWhile (· != '\n')
    return sofar
  else if c = '[' then innerClass f inner sofar
  else if ← isDoubled c then return sofar.operate f (setOperator c)
  else return sofar.add (← classItem f c)

theorem consuming_classStep (f : Flags) (inner : RegexReader (CharSet × Nat)) (c : Char)
    (sofar : ClassSoFar) : (classStep f inner c sofar).Consuming :=
  (Consuming.skip 0).bind_left _

/-- Reads a class after its opening bracket, in which classes nest less than `level` deep. Gives its set, and
how deep it nests. -/
def bracket (f : Flags) : Nat → RegexReader (CharSet × Nat)
  | 0 => reject
  | level + 1 => do
    let (negated, start) ← classStart f
    let sofar ← loop (fun cs => cs.head?.filter (· != ']')) (classStep f (bracket f level))
      (consuming_classStep f _) start
    if ← eat ']' then return (← denied f negated (sofar.total f), sofar.totalDepth + 1) else reject

end SqlFormula.Regex
