import SqlFormula.Text.CaseFold
import SqlFormula.Text.Parts

/-!
# Sets of characters

## Main definitions

- `CharSet` — sets, built from ranges and tables
- `CharSet.mem` — whether a character belongs to a set
- `CharSet.weight` — about how many ranges it takes to write a set down
-/

namespace SqlFormula.Regex

/-- A set of characters. -/
inductive CharSet where
  /-- The characters whose code points lie between two numbers. -/
  | range (first last : Nat)
  | table (t : Text.RangeTable)
  | union (s t : CharSet)
  | intersection (s t : CharSet)
  | difference (s t : CharSet)
  | symmetricDifference (s t : CharSet)
  | complement (s : CharSet)
  /-- The characters that differ at most in case from one of a set. -/
  | caseless (s : CharSet)
  /-- The same, where only ASCII letters have case. -/
  | asciiCaseless (s : CharSet)
  deriving Inhabited

namespace CharSet

/-- Whether a character belongs to a set. -/
def mem (c : Char) : CharSet → Bool
  | .range first last => first ≤ c.toNat && c.toNat ≤ last
  | .table t => t.contains c
  | .union s t => s.mem c || t.mem c
  | .intersection s t => s.mem c && t.mem c
  | .difference s t => s.mem c && !t.mem c
  | .symmetricDifference s t => s.mem c != t.mem c
  | .complement s => !s.mem c
  | .caseless s => (Text.caseVariants c).any fun d => s.mem d
  | .asciiCaseless s => (Text.asciiVariants c).any fun d => s.mem d

/-- The set of one character. -/
def char (c : Char) : CharSet :=
  .range c.toNat c.toNat

/-- The set without characters. -/
def empty : CharSet :=
  .range 1 0

/-- The union of some sets. -/
def unions (sets : List CharSet) : CharSet :=
  sets.foldr .union empty

/-- About how many ranges it takes to write a set down. -/
def weight : CharSet → Nat
  | .range first last => if first ≤ last then 1 else 0
  | .table t => t.ranges.size
  | .union s t | .intersection s t | .difference s t | .symmetricDifference s t => s.weight + t.weight
  | .complement s => s.weight + 1
  | .caseless s | .asciiCaseless s => 2 * s.weight

/-- Whether a set is written with ASCII characters only. -/
def isAscii : CharSet → Bool
  | .range first last => last < 0x80 || last < first
  | .table t => t.ranges.all fun (_, last) => last < 0x80
  | .union s t | .symmetricDifference s t => s.isAscii && t.isAscii
  | .intersection s t => s.isAscii || t.isAscii
  | .difference s _ => s.isAscii
  | .complement _ => false
  | .caseless s => s.isAscii && !(s.mem 'k' || s.mem 's' || s.mem 'K' || s.mem 'S')
  | .asciiCaseless s => s.isAscii

end CharSet

end SqlFormula.Regex
