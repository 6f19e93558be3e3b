import SqlFormula.Regex.Syntax

/-!
# Matching regular expressions

The places of a text with `n` characters are numbered from `0`, before the first character, to `n`, after the
last. A pattern moves a set of places to the places where its matches end, so a text is searched for a pattern
by moving all its places at once. A set of places is a number whose bits tell which places belong to it.

## Main definitions

- `Look.holds` — whether a condition holds between two characters
- `Mover` — what a pattern does to sets of places of one text
- `Pattern.mover` — the mover of a pattern for a text
- `Pattern.isFoundIn` — whether some part of a text matches a pattern
-/

namespace SqlFormula.Regex

/-! ### Conditions on places -/

/-- Whether a place next to a character, or to an end of the text, is next to a word. -/
def touches (word : CharSet) : Option Char → Bool
  | some c => word.mem c
  | none => false

/-- Whether a condition holds at the place between two characters, of which either may be missing at an end of
the text. Between `\r` and `\n` no line ends or begins. -/
def Look.holds (before after : Option Char) : Look → Bool
  | .textStart => before.isNone
  | .textEnd => after.isNone
  | .lineStart false => before.isNone || before = some '\n'
  | .lineStart true =>
    before.isNone || before = some '\n' || (before = some '\r' && after != some '\n')
  | .lineEnd false => after.isNone || after = some '\n'
  | .lineEnd true =>
    after.isNone || after = some '\r' || (after = some '\n' && before != some '\r')
  | .wordBoundary word => touches word before != touches word after
  | .notWordBoundary word => touches word before == touches word after
  | .wordStart word => !touches word before && touches word after
  | .wordEnd word => touches word before && !touches word after
  | .wordStartHalf word => !touches word before
  | .wordEndHalf word => !touches word after

/-! ### Sets of places -/

/-- The set of the places whose number has `true` in a list. -/
def ofBits (bits : List Bool) : Nat :=
  bits.foldr (fun b n => 2 * n + b.toNat) 0

/-- The places before characters of a set. -/
def placesBefore (text : List Char) (s : CharSet) : Nat :=
  ofBits (text.map s.mem)

/-- The places where a condition holds, in a text that comes after `before`. -/
def placesWhere (l : Look) (before : Option Char) : List Char → List Bool
  | [] => [l.holds before none]
  | c :: text => l.holds before (some c) :: placesWhere l (some c) text

/-- All places of a text. -/
def allPlaces (text : List Char) : Nat :=
  Nat.pow 2 (text.length + 1) - 1

/-! ### Movers -/

/-- What a pattern does to sets of places. -/
inductive Mover where
  /-- Leaves every place where it is. -/
  | stay
  /-- From each of these places to the next one. -/
  | advance (places : Nat)
  /-- Keeps only these places. -/
  | keep (places : Nat)
  | seq (m k : Mover)
  | alt (m k : Mover)
  | repeat (m : Mover) (least : Nat) (most : Option Nat)

/-- Moves a set exactly so many times. -/
def moveTimes (move : Nat → Nat) : Nat → Nat → Nat
  | 0, places => places
  | n + 1, places => if places = 0 then 0 else moveTimes move n (move places)

/-- Moves a set at most so many times, and keeps the places on the way. -/
def moveUpTo (move : Nat → Nat) : Nat → Nat → Nat
  | 0, places => places
  | n + 1, places =>
    let more := places ||| move places
    if more = places then places else moveUpTo move n more

namespace Mover

/-- The places where matches end that begin at one of the given ones. `size` is the number of places there are:
repeating more often than that leads to no new place. -/
def move (size : Nat) : Mover → Nat → Nat
  | .stay, places => places
  | .advance before, places => (places &&& before) <<< 1
  | .keep kept, places => places &&& kept
  | .seq m k, places => k.move size (m.move size places)
  | .alt m k, places => m.move size places ||| k.move size places
  | .repeat m least none, places => moveUpTo (m.move size) size (moveTimes (m.move size) least places)
  | .repeat m least (some most), places =>
    moveUpTo (m.move size) (most - least) (moveTimes (m.move size) least places)

end Mover

namespace Pattern

/-- The mover of a pattern for a text. -/
def mover (text : List Char) : Pattern → Mover
  | .empty => .stay
  | .set s => .advance (placesBefore text s)
  | .look l => .keep (ofBits (placesWhere l none text))
  | .seq p q => .seq (p.mover text) (q.mover text)
  | .alt p q => .alt (p.mover text) (q.mover text)
  | .repeat p least most => .repeat (p.mover text) least most
  | .capture p => p.mover text

/-- Whether some part of a text matches a pattern. -/
def isFoundIn (text : List Char) (p : Pattern) : Bool :=
  (p.mover text).move (text.length + 1) (allPlaces text) != 0

end Pattern

end SqlFormula.Regex
