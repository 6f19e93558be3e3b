import SqlFormula.Text.Reading

/-!
# Texts in TOML

A text stands between single or double quotes on one line, or between three of them on several. Between
double quotes a backslash starts an escape.

## Main definitions

- `Toml.quotedText` — reads a text of any of the four kinds
- `Toml.lineText` — reads a text on one line
-/

namespace SqlFormula.Toml

open Reader TextReader

/-- A character that can stand in texts and comments: a tab, or any but the control characters. -/
def isPlain (c : Char) : Bool :=
  c == '\t' || (' ' ≤ c && c != Char.ofNat 0x7F)

/-- A blank within a line. -/
def isSpace (c : Char) : Bool :=
  c == ' ' || c == '\t'

/-- The character that a backslash and another one stand for. -/
def escaped? (c : Char) : Option Char :=
  match c with
  | '\\' => some '\\'
  | '"' => some '"'
  | 'b' => some (Char.ofNat 8)
  | 't' => some '\t'
  | 'n' => some '\n'
  | 'f' => some (Char.ofNat 12)
  | 'r' => some '\r'
  | _ => none

/-- The character with a code point, if there is one. -/
def characterAt? (n : Nat) : Option Char :=
  if n.isValidChar then some (Char.ofNat n) else none

/-- Reads an escape after its backslash. -/
def escape : TextReader Char := do
  match ← next? with
  | none => refuse
  | some 'u' => given (characterAt? (← hexadecimal 4))
  | some 'U' => given (characterAt? (← hexadecimal 8))
  | some c => given (escaped? c)

/-- Reads a character of a text on one line. The characters read so far are given last first. -/
def lineChar (escapes : Bool) (c : Char) (read : List Char) : TextReader (List Char) := do
  skip 1
  if escapes && c = '\\' then return (← escape) :: read
  else if isPlain c then pure (c :: read)
  else refuse

/-- Reads a text on one line between two quotes. -/
def lineText (quote : Char) : TextReader String := do
  skip 1
  let read ← loop (fun input => input.head?.filter (· != quote)) (lineChar (quote = '"'))
    (fun _ _ => (Consuming.skip 0).bind_left _) []
  mark quote
  pure (String.ofList read.reverse)

/-- The number of characters of the end of a line that comes next, or zero. -/
def lineEndLength : List Char → Nat
  | '\n' :: _ => 1
  | '\r' :: '\n' :: _ => 2
  | _ => 0

/-- The number of blanks and ends of lines that come next. -/
def blankLength : List Char → Nat
  | '\r' :: '\n' :: cs => blankLength cs + 2
  | c :: cs => if isSpace c || c == '\n' then blankLength cs + 1 else 0
  | [] => 0

/-- Whether the line ends after some blanks. -/
def isLineEnd (cs : List Char) : Bool :=
  0 < lineEndLength (cs.dropWhile isSpace)

/-- Reads a character of a text on several lines, or a backslash at the end of a line with the blanks after
it. -/
def blockChar (escapes : Bool) (c : Char) (read : List Char) : TextReader (List Char) := do
  skip 1
  if escapes && c = '\\' then
    let input ← ahead
    if isLineEnd input then
      skip (blankLength input)
      pure read
    else return (← escape) :: read
  else if c = '\n' then pure ('\n' :: read)
  else if c = '\r' then
    mark '\n'
    pure ('\n' :: read)
  else if isPlain c then pure (c :: read)
  else refuse

/-- The next character of a text on several lines, unless three quotes come next. -/
def blockNext? (quote : Char) : List Char → Option Char
  | [] => none
  | c :: cs => if c = quote ∧ [quote, quote].isPrefixOf cs then none else some c

/-- Reads a text on several lines between two runs of three quotes. The end of a line directly after the
first run is dropped, and up to two more quotes before the last run belong to the text. -/
def blockText (quote : Char) : TextReader String := do
  skip 3
  skip (lineEndLength (← ahead))
  let read ← loop (blockNext? quote) (blockChar (quote = '"'))
    (fun _ _ => (Consuming.skip 0).bind_left _) []
  let quotes := ((← ahead).take 5).takeWhile (· == quote)
  if quotes.length < 3 then refuse
  else
    skip quotes.length
    pure (String.ofList (read.reverse ++ quotes.drop 3))

/-- Reads a text that starts with a quote. -/
def quotedText (quote : Char) : TextReader String := do
  if [quote, quote, quote].isPrefixOf (← ahead) then blockText quote else lineText quote

end SqlFormula.Toml
