import SqlFormula.Regex.Syntax

/-!
# Sizes of regular expressions

The size of a pattern is that of an automaton for it over the bytes of UTF-8, in bytes. Patterns that are too
large are refused before they are matched.

## Main definitions

- `Pattern.size` — the size of the automaton of a pattern
- `Pattern.fits` — whether a pattern stays within a limit
-/

namespace SqlFormula.Regex

namespace CharSet

/-- The only character of a set that is written as such. -/
def char? : CharSet → Option Char
  | .range first last => if first = last then some (Char.ofNat first) else none
  | _ => none

/-- Whether a set holds all characters, or all but ends of lines. -/
def isDot : CharSet → Bool
  | .range 0 0x10FFFF => true
  | .complement s => s.weight ≤ 2 && s.isAscii
  | _ => false

/-- The size of the automaton of a set. A state takes 32 bytes, and a way out of it 8. -/
def size (s : CharSet) : Nat :=
  match s.char? with
  | some c => 32 * c.utf8Size
  | none =>
    if s.isAscii then 64 + 8 * s.weight
    else if s.isDot then 416
    else 288 + 24 * s.weight

end CharSet

namespace Pattern

/-- The size of the automaton of a pattern. -/
def size : Pattern → Nat
  | .empty => 32
  | .set s => s.size
  | .look _ => 32
  | .seq p q => p.size + q.size
  | .alt p q => p.size + q.size + 40
  | .repeat p least none => max least 1 * p.size + 40
  | .repeat p least (some most) => least * p.size + (most - least) * (p.size + 40) + 32
  | .capture p => p.size + 64

/-- The number of bytes of a pattern that is a sequence of characters. -/
def literalLength? : Pattern → Option Nat
  | .set s => s.char?.map Char.utf8Size
  | .seq p q => do return (← p.literalLength?) + (← q.literalLength?)
  | _ => none

/-- The longest sequence of characters, in bytes, that is searched for without an automaton. -/
def literalLimit : Nat := 100

/-- Whether a pattern is searched for without an automaton. -/
def isLiteral (p : Pattern) : Bool :=
  match p.literalLength? with
  | some n => n ≤ literalLimit
  | none => false

/-- The size of what surrounds the automaton of a pattern: a way to begin at any place, and the ends. -/
def frameSize : Nat := 200

/-- Whether a pattern stays within a limit. -/
def fits (limit : Nat) (p : Pattern) : Bool :=
  p.isLiteral || p.size + frameSize ≤ limit

end Pattern

end SqlFormula.Regex
