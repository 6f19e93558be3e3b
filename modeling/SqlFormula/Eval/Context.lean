import SqlFormula.Zone.Known

/-!
# What evaluation depends on

Besides the record, the value of a formula depends on a few options and on the time.

## Main definitions

- `Options` — the options and their defaults
- `Context` — the options and the present instant
-/

namespace SqlFormula

/-- Options that change the values of formulas. -/
structure Options where
  /-- Whether `LIKE` tells upper from lower case. -/
  likeCaseSensitive : Bool
  /-- How large a compiled pattern may become, in bytes. -/
  patternSizeLimit : Nat
  /-- How many characters a pattern may have. -/
  maxPatternLength : Nat
  /-- The zone of local times. -/
  zone : Zone

/-- The options where nothing else is said. -/
def Options.default : Options where
  likeCaseSensitive := true
  patternSizeLimit := 1048576
  maxPatternLength := 1000
  zone := Zone.utc

instance : Inhabited Options := ⟨Options.default⟩

/-- The options and the present instant. -/
structure Context where
  options : Options
  now : Instant
  deriving Inhabited

end SqlFormula
