import SqlFormula.Instant.Text
import SqlFormula.Number.Reading
import SqlFormula.PortableText.Error
import SqlFormula.Reader
import SqlFormula.Text.Base64
import SqlFormula.Text.Bytes
import SqlFormula.Value

/-!
# Reading portable text

Blanks may stand before and after the value, the fields of an object and the items of an array. A text that
breaks off is told apart from one that goes on in a wrong way.

## Main definitions

- `scalar` — a scalar from its mark and its text
- `container` — the reader of arrays and objects
- `Value.ofPortableText` — a value from its text, with the name of the object which it may be
-/

namespace SqlFormula

namespace PortableText

open Reader

/-- Readers of portable text. -/
abbrev PortableReader := Reader Char FormatError

/-- The byte offset of what comes next. -/
def here : PortableReader Nat := do
  return (← stop) - Text.byteLength (← ahead)

/-- Takes blanks. -/
def blanks : PortableReader Unit := do
  let _ ← takeWhile Text.isBlank

/-- Takes the characters of a text. If the input ends within them, it breaks off. -/
def expect (literal : String) : PortableReader Unit := do
  let offset ← here
  let cs ← ahead
  if literal.toList.isPrefixOf cs then skip literal.length
  else if cs.isPrefixOf literal.toList then fail (.truncated offset (.literal literal))
  else fail (.malformed offset (.notLiteral literal))

/-! ### Scalars -/

/-- The value of a scalar's text, if it has one. -/
def scalarValue? (marker : Marker) (text : String) : Option Value :=
  match marker with
  | .null => if text = "" then some .null else none
  | .boolean =>
    if text = "true" then some (.boolean true)
    else if text = "false" then some (.boolean false)
    else none
  | .integer => (Number.readInt64? text.toList).map .integer
  | .single => (Number.readFloat32? text.toList).map .float
  | .double => (Number.readFloat? text.toList).map .float
  | .text => some (.text text)
  | .blob => (Text.Base64.decode text.toList).map .blob
  | .dateTime => (Instant.ofText? text).map .dateTime

/-- The value of a scalar whose mark stands at `offset`. -/
def scalar (offset : Nat) (marker : Marker) (text : String) : PortableReader Value :=
  match scalarValue? marker text with
  | some v => succeed v
  | none => fail (.invalidScalar offset marker text)

/-- Takes the character after a backslash. -/
def escaped : PortableReader Char := do
  match ← next? with
  | some c => return c
  | none => fail (.truncated (← here) .escaped)

/-- Takes a character, or the one after a backslash, and puts it before those taken so far. -/
def unescape (cs : List Char) : PortableReader (List Char) := do
  match ← next? with
  | some '\\' => return (← escaped) :: cs
  | some c => return c :: cs
  | none => return cs

theorem consuming_unescape (cs : List Char) : (unescape cs).Consuming :=
  Consuming.next?.bind_left _

/-- Takes characters, and any after a backslash, for as long as `more` holds of the next one. -/
def unescaped (more : Char → Bool) : PortableReader (List Char) :=
  loop (fun input => input.head?.filter more) (fun _ => unescape) (fun _ => consuming_unescape) []

/-- Reads the text before a closing quote, and takes the quote. -/
def quotedText : PortableReader String := do
  let cs ← unescaped (· != '`')
  match ← next? with
  | some _ => return String.ofList cs.reverse
  | none => fail (.truncated (← here) .quote)

/-- Reads a name: characters of names, and any after a backslash. -/
def nameText : PortableReader String := do
  let cs ← unescaped fun c => c == '\\' || isNameChar c
  return String.ofList cs.reverse

/-! ### Arrays and objects -/

/-- Reads a value of which the first character `c` at `offset` has been taken; `inner` reads arrays and objects
after their `@`. -/
def valueAfter (inner : Nat → PortableReader (String × Value)) (offset : Nat) (c : Char) :
    PortableReader (String × Value) := do
  if c = '@' then inner offset
  else match Marker.ofSymbol? c with
    | some m =>
      expect "`"
      return ("", ← scalar offset m (← quotedText))
    | none => fail (.unknownMarker offset c)

/-- Reads a value. -/
def value (inner : Nat → PortableReader (String × Value)) : PortableReader (String × Value) := do
  let offset ← here
  match ← next? with
  | some c => valueAfter inner offset c
  | none => fail (.truncated offset .value)

/-- Reads an array or an object where nothing else may be. -/
def containerOnly (inner : Nat → PortableReader (String × Value)) : PortableReader Value := do
  let offset ← here
  match ← next? with
  | some '@' => return (← inner offset).2
  | some _ => fail (.malformed offset .notContainer)
  | none => fail (.truncated offset .container)

/-- Reads the value of a field, given the character after its key. -/
def fieldValue (inner : Nat → PortableReader (String × Value)) (offset : Nat) (c : Char) :
    PortableReader Value := do
  if c = '=' then containerOnly inner
  else match Marker.ofSymbol? c with
    | some m =>
      expect "=`"
      scalar offset m (← quotedText)
    | none => fail (.unknownMarker offset c)

/-- Reads a field: its key, and its value with the mark before it. -/
def field (inner : Nat → PortableReader (String × Value)) : PortableReader (String × Value) := do
  let key ← nameText
  let offset ← here
  match ← next? with
  | some c => return (key, ← fieldValue inner offset c)
  | none => fail (.truncated offset .marker)

theorem consuming_value (inner : Nat → PortableReader (String × Value)) : (value inner).Consuming :=
  Consuming.bind_right fun _ => Consuming.next?.bind_left _

theorem consuming_field (inner : Nat → PortableReader (String × Value)) : (field inner).Consuming :=
  Consuming.bind_right fun _ => Consuming.bind_right fun _ => Consuming.next?.bind_left _

/-- Adds a field to an object, where no key may come twice. -/
def addField (offset : Nat) (key : String) (v : Value) (entries : List (String × Value)) :
    PortableReader (List (String × Value)) :=
  if (Entries.find? key entries).isSome then fail (.duplicateKey offset key)
  else succeed (Entries.insert key v entries)

/-- Reads a field and the blanks after it, and adds it to those read so far. -/
def anotherField (inner : Nat → PortableReader (String × Value)) (entries : List (String × Value)) :
    PortableReader (List (String × Value)) := do
  let offset ← here
  let (key, v) ← field inner
  let entries ← addField offset key v entries
  blanks
  return entries

theorem consuming_anotherField (inner : Nat → PortableReader (String × Value)) (entries : List (String × Value)) :
    (anotherField inner entries).Consuming :=
  Consuming.bind_right fun _ => (consuming_field inner).bind_left _

/-- Reads the fields of an object and the bracket after them. -/
def fields (inner : Nat → PortableReader (String × Value)) : PortableReader (List (String × Value)) := do
  blanks
  let entries ← loop (fun input => input.head?.filter (· != '>')) (fun _ => anotherField inner)
    (fun _ => consuming_anotherField inner) []
  match ← next? with
  | some _ => return entries
  | none => fail (.truncated (← here) .objectEnd)

/-- Reads an item and the blanks after it, and puts it before those read so far. -/
def anotherItem (inner : Nat → PortableReader (String × Value)) (vs : List Value) : PortableReader (List Value) := do
  let (_, v) ← value inner
  blanks
  return v :: vs

theorem consuming_anotherItem (inner : Nat → PortableReader (String × Value)) (vs : List Value) :
    (anotherItem inner vs).Consuming :=
  (consuming_value inner).bind_left _

/-- Reads the items of an array and the bracket after them. -/
def items (inner : Nat → PortableReader (String × Value)) : PortableReader (List Value) := do
  blanks
  let vs ← loop (fun input => input.head?.filter (· != ']')) (fun _ => anotherItem inner)
    (fun _ => consuming_anotherItem inner) []
  match ← next? with
  | some _ => return vs.reverse
  | none => fail (.truncated (← here) .arrayEnd)

/-- Reads an object after what it starts with: its name and its fields. -/
def objectAfter (inner : Nat → PortableReader (String × Value)) : PortableReader (String × Value) := do
  let name ← nameText
  expect "<"
  return (name, .object (← fields inner))

/-- Reads an array after what it starts with. -/
def arrayAfter (inner : Nat → PortableReader (String × Value)) : PortableReader (String × Value) := do
  return ("", .array (← items inner))

/-- The reader of a container that starts in the given way, if there may be one more inside. -/
def nested (offset : Nat) (start : List Char)
    (inner? : Option (Nat → PortableReader (String × Value)))
    (after : (Nat → PortableReader (String × Value)) → PortableReader (String × Value)) :
    PortableReader (String × Value) :=
  match inner? with
  | some inner => do
    skip start.length
    after inner
  | none => fail (.malformed offset .tooDeep)

/-- Reads an array or an object after its `@`, which stands at `offset`. -/
def containerAfter (inner? : Option (Nat → PortableReader (String × Value))) (offset : Nat) :
    PortableReader (String × Value) := do
  let object := objectStart.toList.tail
  let array := arrayStart.toList.tail
  let cs ← ahead
  if object.isPrefixOf cs then nested offset object inner? objectAfter
  else if array.isPrefixOf cs then nested offset array inner? arrayAfter
  else if cs.isPrefixOf object || cs.isPrefixOf array then fail (.truncated offset .container)
  else fail (.malformed offset .notContainer)

/-- Reads an array or an object after its `@`. They nest at most `level` deep. -/
def container : Nat → Nat → PortableReader (String × Value)
  | 0 => containerAfter none
  | level + 1 => containerAfter (some (container level))

/-- Reads a whole text. -/
def document : PortableReader (String × Value) := do
  blanks
  let result ← value (container nestingLimit)
  blanks
  let offset ← here
  if (← ahead).isEmpty then return result else fail (.malformed offset .trailing)

end PortableText

/-- The value of a portable text, with the name of the object which it may be. -/
def Value.ofPortableText (text : String) : Except PortableText.FormatError (String × Value) :=
  (PortableText.document.run text.utf8ByteSize text.toList).1

end SqlFormula
