import SqlFormula.Entries

/-!
# TOML documents

A document is a table. Tables are built up line by line, and how a table came about decides what may be
added to it later.

## Main definitions

- `Toml` — what belongs to a key
- `Toml.assign?` — a value for a key of several parts
- `Toml.within?` — a change of the table that a header names
- `Toml.openTable?`, `Toml.openItem?` — the headers `[a.b]` and `[[a.b]]`
-/

namespace SqlFormula

/-- How a table came about. -/
inductive TableOrigin where
  /-- By its own header. The document is such a table as well. -/
  | header
  /-- By the header of a table inside it. -/
  | innerHeader
  /-- By a key of several parts. -/
  | dottedKey
  deriving DecidableEq, Repr

/-- What belongs to a key. -/
inductive Toml where
  | text (s : String)
  | integer (i : Int)
  | float (x : Float)
  | boolean (b : Bool)
  /-- A date, a time of day, or both, as it is written. -/
  | moment (s : String)
  | array (items : List Toml)
  /-- A table that is written as a value. Nothing can be added to it. -/
  | inlineTable (entries : List (String × Toml))
  | table (origin : TableOrigin) (entries : List (String × Toml))
  /-- Tables with headers in double brackets; what follows belongs to the latest. -/
  | tables (latest : List (String × Toml)) (earlier : List (List (String × Toml)))
  deriving Inhabited

namespace Toml

/-- The entries of a table. -/
abbrev Table := List (String × Toml)

open Entries (find? insert)

/-- Gives a value to the key `parts.last` in the table that the parts before it name, starting from a table.
Each key is assigned once, and a table with a header of its own is not reached by keys of several parts. -/
def assign? (value : Toml) (last : String) : List String → Table → Option Table
  | [], entries => if (find? last entries).isSome then none else some (insert last value entries)
  | part :: parts, entries =>
    match find? part entries with
    | none => do
      let inner ← assign? value last parts []
      pure (insert part (.table .dottedKey inner) entries)
    | some (.table origin inner) =>
      if origin = .header ∨ (parts = [] ∧ origin ≠ .dottedKey) then none
      else do
        let inner ← assign? value last parts inner
        pure (insert part (.table origin inner) entries)
    | some (.tables latest earlier) =>
      if parts = [] then none
      else do
        let latest ← assign? value last parts latest
        pure (insert part (.tables latest earlier) entries)
    | some _ => none

/-- Changes the table at a path of keys. Tables that are missing on the way come about. -/
def within? (change : Table → Option Table) : List String → Table → Option Table
  | [], entries => change entries
  | part :: parts, entries =>
    match find? part entries with
    | none => do
      let inner ← within? change parts []
      pure (insert part (.table .innerHeader inner) entries)
    | some (.table origin inner) => do
      let inner ← within? change parts inner
      pure (insert part (.table origin inner) entries)
    | some (.tables latest earlier) => do
      let latest ← within? change parts latest
      pure (insert part (.tables latest earlier) entries)
    | some _ => none

/-- Adds the table of a header. So far there is none, or only tables inside it had headers. -/
def openTable? (name : String) (entries : Table) : Option Table :=
  match find? name entries with
  | none => some (insert name (.table .header []) entries)
  | some (.table .innerHeader inner) => some (insert name (.table .header inner) entries)
  | some _ => none

/-- Adds a table to those with the same header in double brackets. -/
def openItem? (name : String) (entries : Table) : Option Table :=
  match find? name entries with
  | none => some (insert name (.tables [] []) entries)
  | some (.tables latest earlier) => some (insert name (.tables [] (latest :: earlier)) entries)
  | some _ => none

end Toml

end SqlFormula
