import SqlFormula.CommandLine.Usage

/-!
# Arguments

The arguments are the options of the program, a command, and the options and the text of the command. Two
hyphens alone end the options: what follows is a text, whatever it begins with.

## Main definitions

- `CommandLine.Invocation` — what the arguments ask for
- `CommandLine.Refusal` — why there is nothing to do: help was asked for, or the arguments are wrong
- `CommandLine.readArguments` — what a list of arguments asks for
-/

namespace SqlFormula.CommandLine

/-- What the arguments ask for. -/
structure Invocation where
  /-- The directory of the settings. -/
  configDir : String
  verb : Verb
  /-- The text that the command takes. -/
  text : String
  /-- The record in which a formula is evaluated. -/
  record : String
  deriving DecidableEq, Repr

/-- What is wrong with the arguments. -/
inductive Misuse where
  | unexpected (argument : String)
  | unknownCommand (name : String)
  | noCommand
  | noText (name : String)
  | noValue (p : Parameter)
  | repeated (p : Parameter)
  deriving DecidableEq, Repr

/-- What is wrong, in words. -/
def Misuse.message : Misuse → String
  | .unexpected argument => s!"unexpected argument '{argument}' found"
  | .unknownCommand name => s!"unrecognized subcommand '{name}'"
  | .noCommand => s!"'{programName}' requires a subcommand but one was not provided"
  | .noText name => s!"the following required arguments were not provided: <{name}>"
  | .noValue p => s!"a value is required for '{p.pattern}' but none was supplied"
  | .repeated p => s!"the argument '{p.pattern}' cannot be used multiple times"

/-- Why the arguments are not carried out. -/
inductive Refusal where
  | help (text : String)
  | misuse (m : Misuse)
  deriving DecidableEq, Repr

/-- What an argument is, by its form. -/
inductive Form where
  /-- Two hyphens alone. -/
  | separator
  /-- An option with its name in full, and the value after an equals sign. -/
  | long (name : String) (value : Option String)
  /-- An option with one letter, and what follows it. -/
  | short (letter : Char) (rest : List Char)
  | plain

/-- The form of an argument. One hyphen alone is a plain text. -/
def Form.of (argument : String) : Form :=
  match argument.toList with
  | ['-', '-'] => .separator
  | '-' :: '-' :: cs =>
    let name := String.ofList (cs.takeWhile (· != '='))
    match cs.dropWhile (· != '=') with
    | [] => .long name none
    | _ :: value => .long name (some (String.ofList value))
  | '-' :: c :: cs => .short c cs
  | _ => .plain

/-- The value that follows the letter of an option in the same argument. -/
def attachedValue? : List Char → Option String
  | [] => none
  | '=' :: cs => some (String.ofList cs)
  | cs => some (String.ofList cs)

/-- An option: help, or one that takes a value, with the value if it is in the same argument. -/
inductive GivenOption where
  | help
  | parameter (p : Parameter) (value : Option String)

/-- The option that an argument is, where only `allowed` takes a value. -/
def optionOf? (allowed : Option Parameter) : Form → Option GivenOption
  | .long name value =>
    if name = "help" ∧ value = none then some .help
    else (allowed.filter fun p => p.long == name).map fun p => .parameter p value
  | .short letter rest =>
    if letter = 'h' then some .help
    else (allowed.filter fun p => p.short == letter).map fun p => .parameter p (attachedValue? rest)
  | .separator | .plain => none

/-- What has been read of the arguments before a command, or of those after it. -/
structure Progress where
  /-- The value of the option. -/
  value : Option String := none
  /-- The option whose value comes next. -/
  pending : Option Parameter := none
  /-- The text. -/
  text : Option String := none

/-- Fails if an option has no value yet. -/
def Progress.settled (p : Progress) : Except Refusal Unit :=
  match p.pending with
  | some parameter => .error (.misuse (.noValue parameter))
  | none => .ok ()

/-- Takes the value of an option, which is given once only. -/
def Progress.take (p : Progress) (parameter : Parameter) (value : String) : Except Refusal Progress :=
  if p.value.isSome then .error (.misuse (.repeated parameter))
  else .ok { p with value := some value, pending := none }

/-- Takes an option; `helpText` is what the option for help shows. -/
def Progress.takeOption (p : Progress) (helpText : String) (option : GivenOption) : Except Refusal Progress := do
  p.settled
  match option with
  | .help => .error (.help helpText)
  | .parameter parameter (some value) => p.take parameter value
  | .parameter parameter none => .ok { p with pending := some parameter }

/-- Takes the only text of a command. -/
def Progress.takeText (p : Progress) (argument : String) : Except Refusal Progress := do
  p.settled
  if p.text.isSome then .error (.misuse (.unexpected argument))
  else .ok { p with text := some argument }

/-- Takes an argument of a command that is not after the two hyphens. -/
def Progress.takeArgument (p : Progress) (v : Verb) (argument : String) : Except Refusal Progress :=
  match Form.of argument, p.pending with
  | .plain, some parameter => p.take parameter argument
  | .plain, none => p.takeText argument
  | form, _ =>
    match optionOf? v.parameter? form with
    | some option => p.takeOption v.help option
    | none => .error (.misuse (.unexpected argument))

/-- Reads the arguments of a command. -/
def readCommand (v : Verb) (p : Progress) : List String → Except Refusal Progress
  | [] => do
    p.settled
    pure p
  | argument :: rest =>
    match Form.of argument with
    | .separator => do
      let p ← rest.foldlM Progress.takeText p
      p.settled
      pure p
    | _ => do readCommand v (← p.takeArgument v argument) rest

/-- The invocation of a command with the arguments after it. -/
def invocation (configDir : String) (v : Verb) (arguments : List String) : Except Refusal Invocation := do
  let p ← readCommand v {} arguments
  match p.text with
  | some text => pure { configDir, verb := v, text, record := p.value.getD Parameter.record.default }
  | none => .error (.misuse (.noText v.textName))

/-- What the command for help shows. -/
def helpFor : List String → Refusal
  | [] => .help mainHelp
  | [name] =>
    match Verb.ofName? name with
    | some v => .help v.help
    | none => if name = helpName then .help helpOnHelp else .misuse (.unknownCommand name)
  | _ :: name :: _ => .misuse (.unknownCommand name)

/-- The directory of the settings. Its name is not empty. -/
def Progress.configDir (p : Progress) : Except Refusal String :=
  match p.value with
  | some "" => .error (.misuse (.noValue .configDir))
  | some dir => .ok dir
  | none => .ok Parameter.configDir.default

/-- Reads the arguments up to the command, and then the command. -/
def readMain (p : Progress) : List String → Except Refusal Invocation
  | [] => do
    p.settled
    .error (.misuse .noCommand)
  | argument :: rest =>
    match Form.of argument, p.pending with
    | .plain, some parameter => do readMain (← p.take parameter argument) rest
    | .plain, none =>
      match Verb.ofName? argument with
      | some v => do invocation (← p.configDir) v rest
      | none => .error (if argument = helpName then helpFor rest else .misuse (.unknownCommand argument))
    | form, _ =>
      match optionOf? (some .configDir) form with
      | some option => do readMain (← p.takeOption mainHelp option) rest
      | none => .error (.misuse (.unexpected argument))

/-- What a list of arguments asks for. -/
def readArguments (arguments : List String) : Except Refusal Invocation :=
  readMain {} arguments

end SqlFormula.CommandLine
