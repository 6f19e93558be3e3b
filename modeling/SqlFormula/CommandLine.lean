import SqlFormula.CommandLine.Arguments
import SqlFormula.Configuration
import SqlFormula.Environment.File
import SqlFormula.Eval
import SqlFormula.Json.Read
import SqlFormula.Json.Write
import SqlFormula.Parse
import SqlFormula.PortableText.Read
import SqlFormula.PortableText.Write
import SqlFormula.Syntax.Tree

/-!
# The command line

A call of the program shows a text or an error, and ends with a number: 0 if all went well, 1 after an error or
if a condition does not hold, and 2 if the arguments are wrong.

## Main definitions

- `CommandLine.Answer` — what a call shows and the number with which it ends
- `CommandLine.Setting` — what a call finds in its directory, its environment and on the clock
- `CommandLine.perform` — what a command does under given settings
- `CommandLine.answer` — what a call does
-/

namespace SqlFormula.CommandLine

/-- What a call shows, and the number with which it ends. -/
structure Answer where
  exit : Nat
  stdout : String
  stderr : String
  deriving DecidableEq, Repr

/-- The answer with a text. -/
def Answer.shown (text : String) : Answer :=
  { exit := 0, stdout := text ++ "\n", stderr := "" }

/-- The answer to a condition, which fails if the condition does not hold. -/
def Answer.ofCondition (holds : Bool) : Answer :=
  { exit := if holds then 0 else 1
    stdout := (if holds then "true" else "false") ++ "\n"
    stderr := "" }

/-- The answer with an error. -/
def Answer.failed (message : String) : Answer :=
  { exit := 1, stdout := "", stderr := "Error: " ++ message ++ "\n" }

/-- The answer to arguments that are not carried out. -/
def Answer.ofRefusal : Refusal → Answer
  | .help text => { exit := 0, stdout := text, stderr := "" }
  | .misuse m => { exit := 2, stdout := "", stderr := "error: " ++ m.message ++ "\n\n" ++ mainUsage ++ "\n" }

/-! ### Commands -/

/-- The record that a text in JSON stands for, or an error in words. -/
def recordOf (text : String) : Except String Record :=
  match Json.read? text with
  | none => .error "Invalid --record JSON"
  | some j =>
    match Value.ofJson j with
    | .object entries => .ok entries
    | v => .error ("--record must be a JSON object, got " ++ v.typeName)

/-- The statements of a text, as JSON. -/
def parse (text : String) : Except String Answer := do
  let statements ← (parseStatements text).mapError ParseError.message
  pure (.shown (Json.ofList (Tree.ofStatement .float) statements).pretty)

/-- The value of a formula in a record. -/
def eval (ctx : Context) (formula record : String) : Except String Answer := do
  let record ← recordOf record
  let e ← (parseFormula formula).mapError ParseError.message
  let v ← (e.eval ctx record).mapError EvalError.message
  pure (.shown v.toJson.compact)

/-- Whether a condition holds in a record. -/
def check (ctx : Context) (predicate record : String) : Except String Answer := do
  let record ← recordOf record
  let e ← (parseFormula predicate).mapError ParseError.message
  let holds ← (e.check ctx record).mapError EvalError.message
  pure (.ofCondition holds)

/-- The portable text of a document in JSON. -/
def encode (rootName json : String) : Except String Answer :=
  match Json.read? json with
  | some j => .ok (.shown ((Value.ofJson j).portableText rootName))
  | none => .error "Invalid JSON"

/-- The document that a portable text stands for. -/
def decode (text : String) : Except String Answer := do
  let (_, v) ← (Value.ofPortableText text).mapError PortableText.FormatError.message
  pure (.shown v.toJson.pretty)

/-- What a command does under given settings. -/
def perform (c : Configuration) (now : Instant) (i : Invocation) : Except String Answer :=
  let ctx : Context := { options := c.options, now }
  match i.verb with
  | .parse => parse i.text
  | .eval => eval ctx i.text i.record
  | .check => check ctx i.text i.record
  | .encode => encode c.rootObjectName i.text
  | .decode => decode i.text

/-! ### Calls -/

/-- The name of the file with the settings. -/
def settingsFile : String := "embedql.toml"

/-- The name of the file with variables. -/
def variablesFile : String := ".env"

/-- What a call finds. -/
structure Setting where
  /-- The file with the settings, if there is one. -/
  document : Option String
  /-- The file with variables, if there is one. -/
  assignments : Option String
  environment : Environment
  now : Instant

/-- The settings that apply: those of the environment, with the variables of the file, come before those of
the document. -/
def Setting.configuration (s : Setting) : Except Configuration.Error Configuration := do
  let e := match s.assignments with
    | some text => s.environment.load text
    | none => s.environment
  let c ← match s.document with
    | some text => Configuration.ofToml text
    | none => pure {}
  pure (c.override e)

/-- What an invocation does. -/
def Invocation.answer (i : Invocation) (s : Setting) : Answer :=
  match s.configuration with
  | .error e => .failed e.message
  | .ok c =>
    match perform c s.now i with
    | .ok a => a
    | .error message => .failed message

/-- What a call with some arguments does; `setting` is what it finds where a directory holds its settings. -/
def answer (setting : String → Setting) (arguments : List String) : Answer :=
  match readArguments arguments with
  | .ok i => i.answer (setting i.configDir)
  | .error refusal => .ofRefusal refusal

end SqlFormula.CommandLine
