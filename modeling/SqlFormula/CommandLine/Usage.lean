/-!
# The commands and their options

## Main definitions

- `CommandLine.Verb` — the commands
- `CommandLine.Parameter` — options that take a value
- `CommandLine.mainHelp`, `CommandLine.Verb.help` — the help texts
-/

namespace SqlFormula.CommandLine

/-- The name of the program. -/
def programName : String := "embedql"

/-- What the program does. -/
def about : String := "Embedded SQL-subset formula and statement engine"

/-- The commands. Each takes one text. -/
inductive Verb where
  | parse
  | eval
  | check
  | encode
  | decode
  deriving DecidableEq, Repr

/-- Options that take a value. -/
inductive Parameter where
  | configDir
  | record
  deriving DecidableEq, Repr

namespace Parameter

/-- The name of an option after two hyphens. -/
def long : Parameter → String
  | .configDir => "config-dir"
  | .record => "record"

/-- The letter of an option after one hyphen. -/
def short : Parameter → Char
  | .configDir => 'c'
  | .record => 'r'

/-- How the value of an option is called. -/
def valueName : Parameter → String
  | .configDir => "CONFIG_DIR"
  | .record => "RECORD"

/-- The value of an option that is not given. -/
def default : Parameter → String
  | .configDir => "."
  | .record => "\x7b\x7d"

/-- What an option means. -/
def about : Parameter → String
  | .configDir => "Directory holding embedql.toml and .env"
  | .record => "Record as a JSON object"

/-- An option with its value, as it is written in full. -/
def pattern (p : Parameter) : String :=
  "--" ++ p.long ++ " <" ++ p.valueName ++ ">"

end Parameter

namespace Verb

/-- All commands. -/
def all : List Verb :=
  [.parse, .eval, .check, .encode, .decode]

/-- The name of a command. -/
def name : Verb → String
  | .parse => "parse"
  | .eval => "eval"
  | .check => "check"
  | .encode => "encode"
  | .decode => "decode"

/-- The command with a name. -/
def ofName? (s : String) : Option Verb :=
  all.find? fun v => v.name == s

/-- What a command does. -/
def about : Verb → String
  | .parse => "Parse \x60;\x60-separated statements"
  | .eval => "Evaluate a formula"
  | .check => "Run a validation predicate"
  | .encode => "JSON to portable text"
  | .decode => "Portable text to JSON"

/-- How the text is called that a command takes. -/
def textName : Verb → String
  | .parse => "SQL"
  | .eval => "FORMULA"
  | .check => "PREDICATE"
  | .encode => "JSON"
  | .decode => "TEXT"

/-- The option of a command, if it has one. -/
def parameter? : Verb → Option Parameter
  | .eval | .check => some .record
  | .parse | .encode | .decode => none

end Verb

/-! ### Help -/

/-- The name of the command that shows help. -/
def helpName : String := "help"

/-- What the command does that shows help. -/
def helpAbout : String := "Print this message or the help of the given subcommand(s)"

/-- Lines with a name and an explanation each. The explanations begin in the same column. -/
def columns (rows : List (String × String)) : String :=
  let width := rows.foldl (fun n row => max n row.1.length) 0
  String.join (rows.map fun (name, explanation) =>
    "  " ++ name ++ String.ofList (List.replicate (width - name.length + 2) ' ') ++ explanation ++ "\n")

/-- The line of an option in a help text. -/
def parameterRow (p : Parameter) : String × String :=
  ("-" ++ p.short.toString ++ ", " ++ p.pattern, p.about ++ " [default: " ++ p.default ++ "]")

/-- The part of a help text on options. -/
def optionsPart (p : Option Parameter) : String :=
  "Options:\n" ++ columns ((p.map parameterRow).toList ++ [("-h, --help", "Print help")])

/-- How the program is called. -/
def mainUsage : String :=
  "Usage: " ++ programName ++ " [OPTIONS] <COMMAND>"

/-- How a command is called. -/
def Verb.usage (v : Verb) : String :=
  "Usage: " ++ programName ++ " " ++ v.name ++ (if v.parameter?.isSome then " [OPTIONS]" else "") ++
    " <" ++ v.textName ++ ">"

/-- The help text of the program. -/
def mainHelp : String :=
  about ++ "\n\n" ++ mainUsage ++ "\n\nCommands:\n" ++
    columns (Verb.all.map (fun v => (v.name, v.about)) ++ [(helpName, helpAbout)]) ++ "\n" ++
    optionsPart (some .configDir)

/-- The help text of a command. -/
def Verb.help (v : Verb) : String :=
  v.about ++ "\n\n" ++ v.usage ++ "\n\nArguments:\n" ++ columns [("<" ++ v.textName ++ ">", "")] ++ "\n" ++
    optionsPart v.parameter?

/-- The help text of the command that shows help. -/
def helpOnHelp : String :=
  helpAbout ++ "\n\nUsage: " ++ programName ++ " " ++ helpName ++ " [COMMAND]...\n\nArguments:\n" ++
    columns [("[COMMAND]...", "Print help for the subcommand(s)")]

end SqlFormula.CommandLine
