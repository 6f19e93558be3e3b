import SqlFormula.Regex.CharSet

/-!
# Regular expressions

## Main definitions

- `Pattern` — what a regular expression matches, without the way it is written
- `Look` — conditions on a place between two characters
- `Flags` — the modes of reading
-/

namespace SqlFormula.Regex

/-- A condition on a place in a text. Where a word is concerned, `word` holds the characters of words. -/
inductive Look where
  | textStart
  | textEnd
  /-- The beginning of a line; lines end at `\n`, or at `\r`, `\n` and both together. -/
  | lineStart (crlf : Bool)
  | lineEnd (crlf : Bool)
  | wordBoundary (word : CharSet)
  | notWordBoundary (word : CharSet)
  | wordStart (word : CharSet)
  | wordEnd (word : CharSet)
  /-- No character of a word comes before. -/
  | wordStartHalf (word : CharSet)
  /-- No character of a word comes after. -/
  | wordEndHalf (word : CharSet)

/-- A regular expression. -/
inductive Pattern where
  /-- The empty text. -/
  | empty
  /-- One character of a set. -/
  | set (s : CharSet)
  | look (l : Look)
  | seq (p q : Pattern)
  | alt (p q : Pattern)
  /-- A number of repetitions, at least `least` and at most `most` if there is a bound. -/
  | repeat (p : Pattern) (least : Nat) (most : Option Nat)
  /-- A group that is counted. -/
  | capture (p : Pattern)

namespace Pattern

/-- Patterns one after the other. -/
def sequence : List Pattern → Pattern
  | [] => .empty
  | [p] => p
  | p :: ps => .seq p (sequence ps)

/-- One of some patterns. -/
def choice : List Pattern → Pattern
  | [] => .empty
  | [p] => p
  | p :: ps => .alt p (choice ps)

/-- Whether all matches of a pattern are empty. -/
def isEmptyOnly : Pattern → Bool
  | .empty | .look _ => true
  | .set _ => false
  | .seq p q | .alt p q => p.isEmptyOnly && q.isEmptyOnly
  | .repeat p _ most => most == some 0 || p.isEmptyOnly
  | .capture p => p.isEmptyOnly

/-- Repetitions of a pattern. What is empty is repeated at most once, since more than that changes nothing. -/
def repeated (p : Pattern) (least : Nat) (most : Option Nat) : Pattern :=
  let (least, most) :=
    if p.isEmptyOnly then (min least 1, some ((most.map (min 1)).getD 1)) else (least, most)
  if most = some 0 then .empty
  else if least = 1 ∧ most = some 1 then p
  else .repeat p least most

end Pattern

/-- The modes in which a regular expression is read. -/
structure Flags where
  /-- `i`: case is of no account. -/
  caseless : Bool
  /-- `m`: `^` and `$` stand for the ends of lines. -/
  multiLine : Bool
  /-- `s`: `.` matches line ends as well. -/
  dotAll : Bool
  /-- `u`: characters are those of Unicode, else ASCII. -/
  unicode : Bool
  /-- `R`: `\r` ends lines as well. -/
  crlf : Bool
  /-- `x`: blanks and comments are of no account. -/
  verbose : Bool
  deriving DecidableEq, Repr

namespace Flags

/-- The modes at the beginning. -/
def initial (caseless : Bool) : Flags where
  caseless := caseless
  multiLine := false
  dotAll := false
  unicode := true
  crlf := false
  verbose := false

/-- Turns the mode of a letter on or off. -/
def set? (f : Flags) (letter : Char) (on : Bool) : Option Flags :=
  match letter with
  | 'i' => some { f with caseless := on }
  | 'm' => some { f with multiLine := on }
  | 's' => some { f with dotAll := on }
  | 'u' => some { f with unicode := on }
  | 'R' => some { f with crlf := on }
  | 'x' => some { f with verbose := on }
  | 'U' => some f
  | _ => none

/-- Applies letters, which turn modes on, and off after a hyphen. No letter may occur twice, and the hyphen not
at the end. -/
def change? (f : Flags) (seen : List Char) : List Char → Option Flags
  | [] => if seen.head? = some '-' then none else some f
  | c :: cs =>
    if seen.contains c then none
    else if c = '-' then f.change? (c :: seen) cs
    else (f.set? c (!seen.contains '-')).bind fun g => g.change? (c :: seen) cs

end Flags

end SqlFormula.Regex
