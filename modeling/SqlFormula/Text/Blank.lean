import SqlFormula.Text.Parts

/-!
# Blanks

Blanks are the characters with the Unicode property `White_Space`. Texts are trimmed and split into
words at blanks.

## Main definitions

- `isBlank` — the property
- `trim` — a text without the blanks at its two ends
- `words` — the parts of a text between blanks
-/

namespace SqlFormula.Text

/-- A character with the property `White_Space`. -/
def isBlank (c : Char) : Bool :=
  let n := c.toNat
  (9 ≤ n && n ≤ 13) || n == 0x20 || n == 0x85 || n == 0xA0 || n == 0x1680 ||
    (0x2000 ≤ n && n ≤ 0x200A) || n == 0x2028 || n == 0x2029 || n == 0x202F || n == 0x205F ||
    n == 0x3000

/-- The characters from the first non-blank on. -/
def dropBlanks (cs : List Char) : List Char :=
  cs.dropWhile isBlank

/-- The characters without those at the end that satisfy `p`. -/
def dropEndWhile (p : Char → Bool) (cs : List Char) : List Char :=
  (cs.reverse.dropWhile p).reverse

/-- The characters without blanks at either end. -/
def trimBlanks (cs : List Char) : List Char :=
  dropEndWhile isBlank (dropBlanks cs)

/-- A text without blanks at either end. -/
def trim (s : String) : String :=
  String.ofList (trimBlanks s.toList)

/-- The parts of a text between blanks. -/
def words (s : String) : List String :=
  partsBetween isBlank s

end SqlFormula.Text
