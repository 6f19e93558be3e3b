import SqlFormula.Environment
import SqlFormula.Text.Blank
import SqlFormula.Text.Letter

/-!
# Assignments to variables

A line such as `export NAME="text" # comment` gives a text to a variable. Quotes and backslashes keep
characters from having a meaning of their own, and `$NAME` and `${NAME}` stand for other variables.

## Main definitions

- `Environment.textOf?` — the text that is written after the equals sign
- `Environment.Line` — what a line says
- `Environment.lineOf` — what a line says, from its characters
-/

namespace SqlFormula.Environment

/-- What the characters that come next mean. The truth value of some meanings tells whether a double quote
is open. -/
inductive Meaning where
  | plain
  | inSingleQuotes
  | inDoubleQuotes
  /-- After a backslash. -/
  | escaped (isQuoted : Bool)
  /-- In the name of a variable, whose characters so far are given last first. -/
  | name (isQuoted : Bool) (read : List Char)
  /-- The same between braces. -/
  | bracedName (isQuoted : Bool) (read : List Char)
  /-- After the text: only blanks and a comment may follow. -/
  | finished

/-- What characters mean where nothing else is said. -/
def Meaning.outside (isQuoted : Bool) : Meaning :=
  if isQuoted then .inDoubleQuotes else .plain

/-- The character that a backslash and another one stand for. -/
def escaped? (c : Char) : Option Char :=
  if c = '\\' ∨ c = '\'' ∨ c = '"' ∨ c = '$' ∨ c = ' ' then some c
  else if c = 'n' then some '\n'
  else none

section Text

variable (e : Environment)

/-- Puts the text of a variable before the characters read; both are given last character first. A missing
variable has no characters. -/
def substitute (name read : List Char) : List Char :=
  ((e.get? (String.ofList name.reverse)).getD "").toList.reverse ++ read

/-- The text that is written with some characters, last character first: `read` was written before them. An
unquoted name ends at the first character that is no letter and no digit, and this one stands for itself. -/
def textFrom? : Meaning → List Char → List Char → Option (List Char)
  | .plain, read, [] => some read
  | .finished, read, [] => some read
  | .escaped isQuoted, read, [] => if isQuoted then none else some read
  | .name isQuoted name, read, [] => if isQuoted then none else some (substitute e name read)
  | .inSingleQuotes, _, [] => none
  | .inDoubleQuotes, _, [] => none
  | .bracedName _ _, _, [] => none
  | .finished, read, c :: cs =>
    if c = ' ' ∨ c = '\t' then textFrom? .finished read cs
    else if c = '#' then some read
    else none
  | .escaped isQuoted, read, c :: cs => do textFrom? (.outside isQuoted) ((← escaped? c) :: read) cs
  | .inSingleQuotes, read, c :: cs =>
    if c = '\'' then textFrom? .plain read cs else textFrom? .inSingleQuotes (c :: read) cs
  | .name isQuoted name, read, c :: cs =>
    if Text.isAlphanumeric c then textFrom? (.name isQuoted (c :: name)) read cs
    else if c = '\x7b' ∧ name = [] then textFrom? (.bracedName isQuoted []) read cs
    else if c = '$' then textFrom? (.name isQuoted []) (substitute e name read) cs
    else textFrom? (.outside isQuoted) (c :: substitute e name read) cs
  | .bracedName isQuoted name, read, c :: cs =>
    if c = '\x7d' then textFrom? (.outside isQuoted) (substitute e name read) cs
    else textFrom? (.bracedName isQuoted (c :: name)) read cs
  | .inDoubleQuotes, read, c :: cs =>
    if c = '$' then textFrom? (.name true []) read cs
    else if c = '"' then textFrom? .plain read cs
    else if c = '\\' then textFrom? (.escaped true) read cs
    else textFrom? .inDoubleQuotes (c :: read) cs
  | .plain, read, c :: cs =>
    if c = '$' then textFrom? (.name false []) read cs
    else if c = '\'' then textFrom? .inSingleQuotes read cs
    else if c = '"' then textFrom? .inDoubleQuotes read cs
    else if c = '\\' then textFrom? (.escaped false) read cs
    else if c = ' ' ∨ c = '\t' then textFrom? .finished read cs
    else textFrom? .plain (c :: read) cs

/-- The text that is written after the equals sign, with the variables of the environment. -/
def textOf? (cs : List Char) : Option String :=
  (textFrom? e .plain [] cs).map fun read => String.ofList read.reverse

end Text

/-! ### Lines -/

/-- What a line says. -/
inductive Line where
  /-- Nothing: it is empty or a comment. -/
  | blank
  | assignment (name text : String)
  | malformed

/-- Whether there is nothing left on a line but a comment. -/
def isFinished : List Char → Bool
  | [] => true
  | c :: _ => c == '#'

/-- The name of a variable at the beginning of a text, and what follows it and the blanks after it. -/
def splitName? : List Char → Option (String × List Char)
  | [] => none
  | c :: cs =>
    if c.isAlpha || c == '_' then
      let isNameChar (c : Char) := c.isAlphanum || c == '_' || c == '.'
      some (String.ofList (c :: cs.takeWhile isNameChar), Text.dropBlanks (cs.dropWhile isNameChar))
    else none

/-- The name to which a line assigns, and what follows the equals sign. The word `export` may come before the
name, and it can also be the name. -/
def splitAssignment? (cs : List Char) : Option (String × List Char) :=
  match splitName? cs with
  | some (name, '=' :: cs) => some (name, Text.dropBlanks cs)
  | some ("export", cs) =>
    match splitName? cs with
    | some (name, '=' :: cs) => some (name, Text.dropBlanks cs)
    | _ => none
  | _ => none

/-- What a line says; the variables of the environment can occur in it. -/
def lineOf (e : Environment) (cs : List Char) : Line :=
  let cs := Text.trimBlanks cs
  if isFinished cs then .blank
  else match splitAssignment? cs with
    | none => .malformed
    | some (name, cs) =>
      if isFinished cs then .assignment name ""
      else match textOf? e cs with
        | some text => .assignment name text
        | none => .malformed

end SqlFormula.Environment
