import SqlFormula.Text.Parts

/-!
# Tables of characters

Properties and mappings of characters are written as short texts and read once into sorted arrays.

- A range table is a list of code points in hexadecimal, separated by blanks or ends of lines: `41` for one code
  point, `41-5A` for all from the first to the last. The ranges ascend and do not overlap.
- A mapping table lists what each range is mapped to: `41-5A>61` sends the first code point of the
  range to the given one and the others to those that follow it; `DF>53+53` sends a code point to
  several.

## Main definitions

- `RangeTable`, `RangeTable.ofText`, `RangeTable.contains`
- `namedTables` — several range tables in one text
- `MappingTable`, `MappingTable.ofText`, `MappingTable.apply`
-/

namespace SqlFormula.Text

/-- The words of the text of a table, between blanks and ends of lines. -/
def tableWords (text : String) : List (List Char) :=
  (splitAt ' ' (text.toList.map fun c => if c = '\n' then ' ' else c)).filter (!·.isEmpty)

/-- The number that hexadecimal digits stand for; other characters count as zero. -/
def hexNumber (cs : List Char) : Nat :=
  cs.foldl (fun n c =>
    16 * n + (if c.isDigit then c.toNat - '0'.toNat
      else if 'A' ≤ c ∧ c ≤ 'F' then c.toNat - 'A'.toNat + 10 else 0)) 0

/-- Reads `41` or `41-5A` as the first and the last code point of a range. -/
def rangeOfText (cs : List Char) : Nat × Nat :=
  match splitAt '-' cs with
  | [first, last] => (hexNumber first, hexNumber last)
  | first :: _ => (hexNumber first, hexNumber first)
  | [] => (0, 0)

/-- Index of the range that holds `n`, among the ranges numbered `low` to `high - 1`. -/
def searchRanges (range : Nat → Nat × Nat) (n low high : Nat) : Option Nat :=
  if low < high then
    let middle := (low + high) / 2
    let (first, last) := range middle
    if n < first then searchRanges range n low middle
    else if last < n then searchRanges range n (middle + 1) high
    else some middle
  else none
termination_by high - low

/-- A set of characters, as ascending and disjoint ranges of code points. -/
structure RangeTable where
  ranges : Array (Nat × Nat)

namespace RangeTable

/-- Reads a table from its text. -/
def ofText (text : String) : RangeTable where
  ranges := (tableWords text).map rangeOfText |>.toArray

/-- Whether a character belongs to the set. -/
def contains (table : RangeTable) (c : Char) : Bool :=
  (searchRanges (fun i => table.ranges.getD i (0, 0)) c.toNat 0 table.ranges.size).isSome

/-- The set without characters. -/
def empty : RangeTable where
  ranges := #[]

end RangeTable

/-- Gathers words into tables: a word that ends in a colon is the name of the table that follows. The words are
taken last first, and `ranges` are those already taken of the table whose name is still to come. -/
def gatherTables (ranges : List (Nat × Nat)) (tables : List (String × RangeTable)) :
    List (List Char) → List (String × RangeTable)
  | [] => tables
  | word :: words =>
    if word.getLast? = some ':' then
      gatherTables [] ((String.ofList word.dropLast, ⟨ranges.toArray⟩) :: tables) words
    else gatherTables (rangeOfText word :: ranges) tables words

/-- Reads several tables with their names: `a: 41-5A b: 61`. -/
def namedTables (text : String) : List (String × RangeTable) :=
  gatherTables [] [] (tableWords text).reverse

/-- A range of code points and what the first of them is mapped to. -/
structure Mapping where
  first : Nat
  last : Nat
  image : List Nat

/-- A mapping from characters to texts, as ascending and disjoint ranges. -/
structure MappingTable where
  entries : Array Mapping

namespace MappingTable

/-- Reads `41-5A>61` or `DF>53+53`. -/
def entryOfText (cs : List Char) : Mapping :=
  match splitAt '>' cs with
  | [source, image] =>
    let (first, last) := rangeOfText source
    { first, last, image := (splitAt '+' image).map hexNumber }
  | _ => { first := 0, last := 0, image := [0] }

/-- Reads a table from its text. -/
def ofText (text : String) : MappingTable where
  entries := (tableWords text).map entryOfText |>.toArray

/-- What a character is mapped to, if the table holds it. -/
def find? (table : MappingTable) (c : Char) : Option (List Char) :=
  let entry i := table.entries.getD i { first := 0, last := 0, image := [] }
  (searchRanges (fun i => ((entry i).first, (entry i).last)) c.toNat 0 table.entries.size).map
    fun i =>
      let e := entry i
      e.image.map fun n => Char.ofNat (n + (c.toNat - e.first))

/-- What a character is mapped to; one that the table does not hold stays. -/
def apply (table : MappingTable) (c : Char) : List Char :=
  (table.find? c).getD [c]

end MappingTable

end SqlFormula.Text
