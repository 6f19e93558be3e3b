/-!
# Parts of texts

## Main definitions

- `find?`, `contains` — where a part first occurs, and whether it occurs at all
- `splitAt` — all parts between the occurrences of a character
- `partsBetween` — the non-empty parts between the characters of a class
- `Place`, `Place.ofRest` — a line and a column, and the place at which the rest of a text begins
-/

namespace SqlFormula.Text

/-- The number of characters before the first place where `part` occurs. -/
def find? (part : List Char) : List Char → Option Nat
  | [] => if part.isEmpty then some 0 else none
  | c :: cs => if part.isPrefixOf (c :: cs) then some 0 else (find? part cs).map (· + 1)

/-- Whether `part` occurs in a text. -/
def contains (part s : String) : Bool :=
  (find? part.toList s.toList).isSome

/-- The parts of a text between the occurrences of a separator. -/
def splitAt (separator : Char) : List Char → List (List Char)
  | [] => [[]]
  | c :: cs =>
    if c = separator then [] :: splitAt separator cs
    else match splitAt separator cs with
      | [] => [[c]]
      | part :: parts => (c :: part) :: parts

/-- The non-empty parts of a text between characters that satisfy `p`; `part` is the part read so
far, last character first. -/
def partsFrom (p : Char → Bool) (part : List Char) : List Char → List String
  | [] => if part.isEmpty then [] else [String.ofList part.reverse]
  | c :: cs =>
    if p c then
      if part.isEmpty then partsFrom p [] cs else String.ofList part.reverse :: partsFrom p [] cs
    else partsFrom p (c :: part) cs

/-- The non-empty parts of a text between characters that satisfy `p`. -/
def partsBetween (p : Char → Bool) (s : String) : List String :=
  partsFrom p [] s.toList

/-- A place in a text. Lines and columns are counted from one. -/
structure Place where
  line : Nat
  column : Nat
  deriving DecidableEq, Repr

/-- The place at which the rest of a text begins. -/
def Place.ofRest (cs rest : List Char) : Place :=
  let read := cs.take (cs.length - rest.length)
  { line := read.count '\n' + 1
    column := (read.reverse.takeWhile (· != '\n')).length + 1 }

end SqlFormula.Text
