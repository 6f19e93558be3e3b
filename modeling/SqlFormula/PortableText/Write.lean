import SqlFormula.Instant.Text
import SqlFormula.Number.Layout
import SqlFormula.PortableText.Marker
import SqlFormula.Text.Base64
import SqlFormula.Value

/-!
# Writing portable text

Scalars are written as a mark and their text in quotes. In an object the mark stands between the key and `=`.
Objects have names: the root has any, and others the name of their field.

## Main definitions

- `escape` — backslashes before the characters that do not stand for themselves
- `quoted`, `escapedName` — texts in quotes, and names
- `Value.portableText` — the portable text of a value
-/

namespace SqlFormula

namespace PortableText

/-- The characters with a backslash before each that does not stand for itself. -/
def escape (bare : Char → Bool) : List Char → List Char
  | [] => []
  | c :: cs => if bare c then c :: escape bare cs else '\\' :: c :: escape bare cs

/-- A name; other characters than those of names come after a backslash. -/
def escapedName (cs : List Char) : List Char :=
  escape isNameChar cs

/-- A character that texts in quotes hold without an escape. -/
def isTextChar (c : Char) : Bool :=
  c != '`' && c != '\\'

/-- The text between quotes; a quote and a backslash come after a backslash. -/
def escapedText (cs : List Char) : List Char :=
  escape isTextChar cs

/-- A text in quotes. -/
def quoted (cs : List Char) : List Char :=
  '`' :: escapedText cs ++ ['`']

/-- The mark and the text of a scalar; nothing for arrays and objects. -/
def scalar? : Value → Option (Marker × List Char)
  | .null => some (.null, [])
  | .boolean b => some (.boolean, (toString b).toList)
  | .integer i => some (.integer, (toString i.toInt).toList)
  | .float x => some (.double, (Number.exactLayout.write x).toList)
  | .text s => some (.text, s.toList)
  | .blob bytes => some (.blob, Text.Base64.encode bytes)
  | .dateTime t => some (.dateTime, t.text.toList)
  | .array _ | .object _ => none

/-- The name of objects in arrays. -/
def itemName : String := "element"

/-- The text of a scalar. -/
def writeScalar (v : Value) : List Char :=
  match scalar? v with
  | some (m, cs) => m.symbol :: quoted cs
  | none => []

/-- What comes after the key of a field: a scalar has its mark before the sign, and `whole` is the text of an array
or an object. -/
def afterKey (v : Value) (whole : List Char) : List Char :=
  match scalar? v with
  | some (m, cs) => m.symbol :: '=' :: quoted cs
  | none => '=' :: whole

mutual

/-- The text of a value; `name` is that of an object. -/
def write (name : List Char) : Value → List Char
  | .array items => arrayStart.toList ++ writeItems items ++ [']']
  | .object entries => objectStart.toList ++ escapedName name ++ '<' :: writeEntries entries ++ ['>']
  | v => writeScalar v

/-- The items of an array with blanks between them. -/
def writeItems : List Value → List Char
  | [] => []
  | [v] => write itemName.toList v
  | v :: vs => write itemName.toList v ++ ' ' :: writeItems vs

/-- The fields of an object with blanks between them. -/
def writeEntries : List (String × Value) → List Char
  | [] => []
  | [(key, v)] => escapedName key.toList ++ afterKey v (write key.toList v)
  | (key, v) :: rest =>
    escapedName key.toList ++ afterKey v (write key.toList v) ++ ' ' :: writeEntries rest

end

end PortableText

/-- The portable text of a value; `name` is that of the object which it may be. -/
def Value.portableText (v : Value) (name : String) : String :=
  String.ofList (PortableText.write name.toList v)

end SqlFormula
