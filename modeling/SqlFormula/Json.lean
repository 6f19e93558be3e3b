import SqlFormula.Entries

/-!
# JSON documents

## Main definitions

- `Json` — documents; integers are told from other numbers
- `Json.find?` — looking into objects
-/

namespace SqlFormula

/-- A JSON document. Integers have no fraction and no exponent; the members of an object are in the order
in which they are written. -/
inductive Json where
  | null
  | boolean (b : Bool)
  | integer (i : Int)
  | float (x : Float)
  | text (s : String)
  | array (items : List Json)
  | object (members : List (String × Json))
  deriving Inhabited

namespace Json

/-- The member of an object with the given name. -/
def find? (name : String) : Json → Option Json
  | .object members => Entries.find? name members
  | _ => none

/-- A text, or `null`. -/
def ofText? : Option String → Json
  | some s => .text s
  | none => .null

/-- A document or `null`. -/
def ofOption : Option Json → Json
  | some j => j
  | none => .null

/-- The array of the documents of some things. -/
def ofList {α : Type} (f : α → Json) (items : List α) : Json :=
  .array (items.map f)

/-- A natural number. -/
def ofNat (n : Nat) : Json :=
  .integer n

end Json

end SqlFormula
