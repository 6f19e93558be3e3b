import SqlFormula.Text.Parts
import SqlFormula.Toml.Scalar
import SqlFormula.Toml.Text

/-!
# Reading TOML

A document is read line by line. A line holds an entry, a header or nothing, and ends with a comment or
not. Arrays can extend over several lines, tables that are written as values cannot.

## Main definitions

- `Toml.key` — reads a key of one or more parts
- `Toml.value` — reads a value, with a limit on nesting
- `Toml.Draft` — a document of which some lines have been read
- `Toml.read` — a document from its text
-/

namespace SqlFormula.Toml

open Reader TextReader

/-- Arrays and tables written as values nest less deep than this, and keys have fewer parts. -/
def nestingLimit : Nat := 80

/-! ### Between the parts -/

/-- Reads blanks within a line. -/
def spaces : TextReader Unit := do
  let _ ← takeWhile isSpace

/-- Reads a comment, if there is one. -/
def comment : TextReader Unit := do
  if (← peek?) = some '#' then
    let _ ← takeWhile isPlain

/-- Reads the end of a line. -/
def lineEnd : TextReader Unit := do
  match lineEndLength (← ahead) with
  | 0 => refuse
  | n + 1 => skip (n + 1)

theorem consuming_lineEnd : lineEnd.Consuming := by
  intro stop input a hne h
  simp only [lineEnd, bind, andThen, ahead] at h ⊢
  split
  · next heq => simp [heq, refuse, Reader.fail] at h
  · next n heq => exact Consuming.skip n stop input a hne rfl

/-- Reads what may follow on a line: blanks and a comment. Nothing else may come before its end. -/
def restOfLine : TextReader Unit := do
  spaces
  comment
  if (← peek?).isSome then lineEnd

/-- Reads blanks, comments and ends of lines. -/
def gap : TextReader Unit := do
  spaces
  loop (fun input => input.head?.filter fun c => c == '#' || c == '\n' || c == '\r')
    (fun _ _ => do
      comment
      lineEnd
      spaces)
    (fun _ _ => Consuming.bind_right fun _ => consuming_lineEnd.bind_left _) ()

/-! ### Keys -/

/-- A character of a part of a key that is not quoted. -/
def isBareKeyChar (c : Char) : Bool :=
  c.isAlphanum || c == '-' || c == '_'

/-- Reads a part of a key with blanks around it. -/
def keyPart : TextReader String := do
  spaces
  let part ← match ← peek? with
    | some '"' => lineText '"'
    | some '\'' => lineText '\''
    | _ => do
      let cs ← takeWhile isBareKeyChar
      if cs.isEmpty then refuse else pure (String.ofList cs)
  spaces
  pure part

/-- Reads a key: the parts before its last one, and the last one. -/
def key : TextReader (List String × String) := do
  let parts ← sepBy1 (· == '.') keyPart
  if nestingLimit ≤ parts.length then refuse
  else pure (parts.dropLast, parts.getLastD "")

/-! ### Values -/

/-- A character of a number, a date, a time or a word. -/
def isScalarChar (c : Char) : Bool :=
  c.isAlphanum || c == '+' || c == '-' || c == '_' || c == '.' || c == ':'

/-- Whether a blank and a time of day come next, after a date. -/
def isTimeAhead : List Char → Bool
  | ' ' :: c :: _ => c.isDigit
  | _ => false

/-- Reads a number, a date, a time or a word. A date and a time can have a blank between them. -/
def scalar : TextReader Toml := do
  let cs ← takeWhile isScalarChar
  if isDate cs && isTimeAhead (← ahead) then
    skip 1
    let time ← takeWhile isScalarChar
    given (scalar? (cs ++ ' ' :: time))
  else given (scalar? cs)

/-- Reads an item of an array with what surrounds it. -/
def item (value : TextReader Toml) : TextReader Toml := do
  gap
  let v ← value
  gap
  pure v

/-- Reads the items of an array after its bracket, and the closing bracket. The last item may have a comma
after it. -/
def items (value : TextReader Toml) : TextReader (List Toml) := do
  gap
  if (← peek?) = some ']' then
    skip 1
    pure []
  else
    let first ← item value
    let read ← loop (fun input => input.head?.filter (· != ']'))
      (fun _ read => do
        mark ','
        gap
        if (← peek?) = some ']' then pure read
        else return (← item value) :: read)
      (fun _ _ => (consuming_mark ',').bind_left _) [first]
    mark ']'
    pure read.reverse

/-- Reads an entry: a key and its value, with an equals sign between them. -/
def entry (value : TextReader Toml) : TextReader ((List String × String) × Toml) := do
  let k ← key
  mark '='
  spaces
  let v ← value
  spaces
  pure (k, v)

theorem consuming_entry (value : TextReader Toml) : (entry value).Consuming :=
  Consuming.bind_right fun _ => (consuming_mark '=').bind_left _

/-- Reads the entries of a table that is written as a value, after its brace, and the closing brace. -/
def inlineEntries (value : TextReader Toml) : TextReader Table := do
  spaces
  if (← peek?) = some '\x7d' then
    skip 1
    pure []
  else
    let entries ← sepBy1 (· == ',') (entry value)
    mark '\x7d'
    given (entries.foldlM (fun table ((parts, last), v) => assign? v last parts table) [])

/-- Reads a value in which arrays and tables are nested less than `depth` deep. -/
def value : Nat → TextReader Toml
  | 0 => refuse
  | depth + 1 =>
    let inner := value depth
    do
      match ← peek? with
      | some '"' => return .text (← quotedText '"')
      | some '\'' => return .text (← quotedText '\'')
      | some '[' =>
        skip 1
        if depth = 0 then refuse else return .array (← items inner)
      | some '\x7b' =>
        skip 1
        if depth = 0 then refuse else return .inlineTable (← inlineEntries inner)
      | _ => scalar

/-! ### Documents -/

/-- A document of which some lines have been read. -/
structure Draft where
  entries : Table
  /-- The path of the table to which the lines belong that come next. -/
  current : List String

/-- Adds an entry. -/
def Draft.add? (d : Draft) (parts : List String) (last : String) (v : Toml) : Option Draft := do
  let entries ← within? (assign? v last parts) d.current d.entries
  pure { d with entries }

/-- Starts the table of a header. -/
def Draft.start? (d : Draft) (opening : String → Table → Option Table) (parts : List String) (last : String) :
    Option Draft := do
  let entries ← within? (opening last) parts d.entries
  pure { entries, current := parts ++ [last] }

/-- Reads a header. -/
def header (d : Draft) : TextReader Draft := do
  skip 1
  let isDouble := (← peek?) = some '['
  if isDouble then skip 1
  let (parts, last) ← key
  mark ']'
  if isDouble then mark ']'
  let d ← given (d.start? (if isDouble then openItem? else openTable?) parts last)
  restOfLine
  pure d

/-- Reads an entry that is a line. -/
def entryLine (d : Draft) : TextReader Draft := do
  let ((parts, last), v) ← entry (value nestingLimit)
  let d ← given (d.add? parts last v)
  restOfLine
  pure d

/-- Reads a comment that is a line. -/
def commentLine (d : Draft) : TextReader Draft := do
  skip 1
  let _ ← takeWhile isPlain
  restOfLine
  pure d

/-- Reads an empty line. -/
def emptyLine (d : Draft) : TextReader Draft := do
  lineEnd
  pure d

/-- Reads a line that begins with the given character. -/
def line (c : Char) (d : Draft) : TextReader Draft :=
  if c = '#' then commentLine d
  else if c = '[' then header d
  else if c = '\n' ∨ c = '\r' then emptyLine d
  else entryLine d

theorem consuming_line (c : Char) (d : Draft) : (line c d).Consuming := by
  unfold line
  split
  · exact (Consuming.skip 0).bind_left _
  · split
    · exact (Consuming.skip 0).bind_left _
    · split
      · exact consuming_lineEnd.bind_left _
      · exact (consuming_entry _).bind_left _

/-- Reads a line that begins with the given character, and the blanks before the next one. -/
def lineAndSpaces (c : Char) (d : Draft) : TextReader Draft := do
  let d ← line c d
  spaces
  pure d

/-- Reads a document. A mark for the order of bytes may come before it. -/
def document : TextReader Table := do
  if (← peek?) = some '\uFEFF' then skip 1
  spaces
  let d ← loop List.head? lineAndSpaces (fun c d => (consuming_line c d).bind_left _) ⟨[], []⟩
  pure d.entries

/-- The document that a text is, or the place at which it is malformed. -/
def read (s : String) : Except Text.Place Table :=
  match document.run 0 s.toList with
  | (.ok entries, _) => .ok entries
  | (.error _, rest) => .error (.ofRest s.toList rest)

end SqlFormula.Toml
