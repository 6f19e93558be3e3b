import SqlFormula.Json
import SqlFormula.Number.Layout
import SqlFormula.Text.Hex

/-!
# Writing JSON

A document is written on one line without blanks, or with a line for each item and member.

## Main definitions

- `Json.escape` — a text as a JSON string
- `Json.compact` — a document on one line
- `Json.pretty` — a document with a line for each item, indented by two blanks per level
-/

namespace SqlFormula

namespace Json

/-- The double layout of JSON: below `1e-5` and from `1e16` on a power of ten is split off. -/
def floatLayout : Number.Layout where
  plain := some (-5, 16)
  wholeFraction := true
  signedPower := true
  tie := .toEven

/-- A double; NaN and the infinities, which JSON lacks, are `null`. -/
def floatText (x : Float) : String :=
  if Number.isFinite x then floatLayout.write x else "null"

/-- A character inside a string. -/
def escapeChar (c : Char) : List Char :=
  if c = '"' then ['\\', '"']
  else if c = '\\' then ['\\', '\\']
  else if c = '\n' then ['\\', 'n']
  else if c = '\r' then ['\\', 'r']
  else if c = '\t' then ['\\', 't']
  else if c = Char.ofNat 8 then ['\\', 'b']
  else if c = Char.ofNat 12 then ['\\', 'f']
  else if c.toNat < 0x20 then
    ['\\', 'u', '0', '0', Text.Hex.lowerDigit (c.toNat / 16), Text.Hex.lowerDigit (c.toNat % 16)]
  else [c]

/-- A text as a JSON string. -/
def escape (s : String) : String :=
  String.ofList ('"' :: s.toList.flatMap escapeChar ++ ['"'])

mutual

/-- A document on one line, without blanks. -/
def compact : Json → String
  | .null => "null"
  | .boolean b => if b then "true" else "false"
  | .integer i => toString i
  | .float x => floatText x
  | .text s => escape s
  | .array items => "[" ++ ",".intercalate (compactItems items) ++ "]"
  | .object members => "\x7b" ++ ",".intercalate (compactMembers members) ++ "\x7d"

/-- The items of an array on one line. -/
def compactItems : List Json → List String
  | [] => []
  | item :: items => compact item :: compactItems items

/-- The members of an object on one line. -/
def compactMembers : List (String × Json) → List String
  | [] => []
  | (name, item) :: members => (escape name ++ ":" ++ compact item) :: compactMembers members

end

/-- The start of a line at a level of nesting. -/
def indent (level : Nat) : String :=
  "\n" ++ String.ofList (List.replicate (2 * level) ' ')

/-- Items on lines of their own, between two brackets. -/
def block (level : Nat) (opening closing : String) (items : List String) : String :=
  if items.isEmpty then opening ++ closing
  else
    opening ++ indent (level + 1) ++ ("," ++ indent (level + 1)).intercalate items ++ indent level ++ closing

mutual

/-- A document at a level of nesting, with a line for each item and member. -/
def prettyAt (level : Nat) : Json → String
  | .null => "null"
  | .boolean b => if b then "true" else "false"
  | .integer i => toString i
  | .float x => floatText x
  | .text s => escape s
  | .array items => block level "[" "]" (prettyItems (level + 1) items)
  | .object members => block level "\x7b" "\x7d" (prettyMembers (level + 1) members)

/-- The items of an array. -/
def prettyItems (level : Nat) : List Json → List String
  | [] => []
  | item :: items => prettyAt level item :: prettyItems level items

/-- The members of an object. -/
def prettyMembers (level : Nat) : List (String × Json) → List String
  | [] => []
  | (name, item) :: members => (escape name ++ ": " ++ prettyAt level item) :: prettyMembers level members

end

/-- A document with a line for each item and member. -/
def pretty (j : Json) : String :=
  prettyAt 0 j

end Json

end SqlFormula
