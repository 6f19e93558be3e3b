import SqlFormula.Environment
import SqlFormula.Eval.Context
import SqlFormula.PortableText.Marker
import SqlFormula.Text.Blank
import SqlFormula.Toml.Read

/-!
# Configuration

The settings come from three places: a document in TOML, the environment, which overrides the document,
and the defaults for what is set nowhere.

## Main definitions

- `Configuration` — the settings and their defaults
- `Configuration.ofToml` — the settings of a document
- `Configuration.override` — the settings with those of the environment
- `Configuration.options` — what evaluation depends on
-/

namespace SqlFormula

/-- The settings. -/
structure Configuration where
  /-- The name of the zone of local times. -/
  timezone : String := "UTC"
  /-- Whether `LIKE` tells upper from lower case. -/
  likeCaseSensitive : Bool := Options.default.likeCaseSensitive
  /-- How large a compiled pattern may become, in bytes. -/
  patternSizeLimit : Nat := Options.default.patternSizeLimit
  /-- How many characters a pattern may have. -/
  maxPatternLength : Nat := Options.default.maxPatternLength
  /-- The name of the outermost object in portable text. -/
  rootObjectName : String := PortableText.defaultName
  /-- Which events are logged. -/
  logFilter : String := "embedql=info"

namespace Configuration

/-- The zone of local times. -/
def zone (c : Configuration) : Zone :=
  Zone.named c.timezone

/-- What evaluation depends on. -/
def options (c : Configuration) : Options where
  likeCaseSensitive := c.likeCaseSensitive
  patternSizeLimit := c.patternSizeLimit
  maxPatternLength := c.maxPatternLength
  zone := c.zone

/-! ### Settings from a document -/

/-- Why a document gives no settings. -/
inductive Error where
  /-- It is no TOML from a place on. -/
  | malformed (place : Text.Place)
  /-- A setting has a value of a wrong kind. -/
  | mistyped (name : String)

/-- The error in words. -/
def Error.message : Error → String
  | .malformed place => s!"TOML parse error at line {place.line}, column {place.column}"
  | .mistyped name => s!"TOML parse error: invalid value for `{name}`"

/-- A setting of a document, read from its value by `f`. -/
def setting {α : Type} (f : Toml → Option α) (name : String) (default : α) (document : Toml.Table) :
    Except Error α :=
  match Entries.find? name document with
  | none => .ok default
  | some v =>
    match f v with
    | some a => .ok a
    | none => .error (.mistyped name)

/-- A text. -/
def text? : Toml → Option String
  | .text s => some s
  | _ => none

/-- A truth value. -/
def flag? : Toml → Option Bool
  | .boolean b => some b
  | _ => none

/-- An integer that is not negative. -/
def count? : Toml → Option Nat
  | .integer i => i.toNat?
  | _ => none

/-- The settings of a table. Entries that are no settings are passed over. -/
def ofTable (document : Toml.Table) : Except Error Configuration := do
  let standard : Configuration := {}
  let timezone ← setting text? "timezone" standard.timezone document
  let likeCaseSensitive ← setting flag? "like_case_sensitive" standard.likeCaseSensitive document
  let patternSizeLimit ← setting count? "regex_size_limit" standard.patternSizeLimit document
  let maxPatternLength ← setting count? "max_pattern_length" standard.maxPatternLength document
  let rootObjectName ← setting text? "root_object_name" standard.rootObjectName document
  let logFilter ← setting text? "log_filter" standard.logFilter document
  pure { timezone, likeCaseSensitive, patternSizeLimit, maxPatternLength, rootObjectName, logFilter }

/-- The settings of a document in TOML. -/
def ofToml (document : String) : Except Error Configuration :=
  match Toml.read document with
  | .ok table => ofTable table
  | .error place => .error (.malformed place)

/-! ### Settings from the environment -/

/-- A truth value in words. -/
def flagOfWord? (s : String) : Option Bool :=
  let word := (Text.trimBlanks s.toList).map Char.toLower
  if ["true".toList, "1".toList, "yes".toList].contains word then some true
  else if ["false".toList, "0".toList, "no".toList].contains word then some false
  else none

/-- The names of the variables that override settings. -/
def variableNames : List String :=
  ["EMBEDQL_TIMEZONE", "EMBEDQL_LIKE_CASE_SENSITIVE", "EMBEDQL_LOG"]

/-- The settings with those of the environment in their place. -/
def override (c : Configuration) (e : Environment) : Configuration :=
  { c with
    timezone := (e.nonEmpty? "EMBEDQL_TIMEZONE").getD c.timezone
    likeCaseSensitive := ((e.get? "EMBEDQL_LIKE_CASE_SENSITIVE").bind flagOfWord?).getD c.likeCaseSensitive
    logFilter := (e.nonEmpty? "EMBEDQL_LOG").getD c.logFilter }

end Configuration

end SqlFormula
