import SqlFormula.Environment.Assignment

/-!
# Files with variables

A file holds an assignment per line. A line goes on over its end while a quote is open, and after a backslash
or a blank at the end of the file it is never complete.

## Main definitions

- `Environment.logicalLines` — the lines of a file, joined where a quote is open
- `Environment.load` — the environment with the variables of a file
- `Environment.namesIn` — the variables on which the result can depend
-/

namespace SqlFormula.Environment

/-- How far a line has got. -/
inductive LineState where
  /-- It is complete where the text breaks. -/
  | complete
  /-- After a blank, where a comment can begin. -/
  | afterBlank
  | escape
  | single
  | singleEscape
  | double
  | doubleEscape
  deriving DecidableEq, Repr

/-- What a character outside of quotes leads to. -/
def LineState.unquoted (c : Char) : LineState :=
  if c = '\\' then .escape
  else if c = '"' then .double
  else if c = '\'' then .single
  else .complete

/-- The state after one more character. -/
def LineState.next : LineState → Char → LineState
  | .complete, c =>
    if Text.isBlank c && c != '\n' && c != '\r' then .afterBlank else .unquoted c
  | .afterBlank, c => .unquoted c
  | .escape, _ => .complete
  | .single, c => if c = '\\' then .singleEscape else if c = '\'' then .complete else .single
  | .singleEscape, _ => .single
  | .double, c => if c = '\\' then .doubleEscape else if c = '"' then .complete else .double
  | .doubleEscape, _ => .double

/-- How a line of the file ends. -/
inductive LineEnd where
  /-- With a comment, after the given characters. -/
  | comment (before : List Char)
  | state (s : LineState)

/-- How some characters end; `read` came before them, last character first. -/
def lineEnd (s : LineState) (read : List Char) : List Char → LineEnd
  | [] => .state s
  | c :: cs => if s = .afterBlank ∧ c = '#' then .comment read.reverse else lineEnd (s.next c) (c :: read) cs

/-- The lines of a text, each with the line feed at its end. -/
def physicalLines (cs : List Char) : List (List Char) :=
  let feeds := (Text.splitAt '\n' cs).dropLast.map (· ++ ['\n'])
  let last := (Text.splitAt '\n' cs).getLastD []
  if last.isEmpty then feeds else feeds ++ [last]

/-- A line without the line feed at its end, and without the carriage return before it. -/
def withoutLineFeed (cs : List Char) : List Char :=
  match cs.reverse with
  | '\n' :: '\r' :: rest => rest.reverse
  | '\n' :: rest => rest.reverse
  | _ => cs

/-- The lines of a file, joined where one is not complete: `read` is what has been read of an incomplete one.
A line that never gets complete is missing. -/
def joinLines (read : List Char) (s : LineState) : List (List Char) → List (Option (List Char))
  | [] => if s = .complete then [] else [none]
  | raw :: raws =>
    let whole := read ++ raw
    if (Text.dropBlanks whole).head? = some '#' then some [] :: joinLines [] .complete raws
    else match lineEnd s [] raw with
      | .comment before => some (read ++ before) :: joinLines [] .complete raws
      | .state .complete => some (withoutLineFeed whole) :: joinLines [] .complete raws
      | .state s => joinLines whole s raws

/-- The lines of a file, joined where a quote is open. -/
def logicalLines (text : String) : List (Option (List Char)) :=
  match text.toList with
  | '\uFEFF' :: cs => joinLines [] .complete (physicalLines cs)
  | cs => joinLines [] .complete (physicalLines cs)

/-- The environment with the variables of some lines, up to the first that is malformed. Variables that are
there already stay as they are. -/
def loadLines (e : Environment) : List (Option (List Char)) → Environment
  | [] => e
  | none :: _ => e
  | some cs :: rest =>
    match lineOf e cs with
    | .blank => loadLines e rest
    | .assignment name text => loadLines (e.addMissing name text) rest
    | .malformed => e

/-- The environment with the variables of a file. -/
def load (e : Environment) (text : String) : Environment :=
  loadLines e (logicalLines text)

/-- Names that include those of all variables on which loading a file can depend. -/
def namesIn (text : String) : List String :=
  Text.partsBetween (fun c => !Text.isAlphanumeric c) text ++
    Text.partsBetween (fun c => !(c.isAlphanum || c == '_' || c == '.')) text ++
    Text.partsBetween (fun c => c == '\x7b' || c == '\x7d') text

end SqlFormula.Environment
