/-!
# The environment

## Main definitions

- `Environment` — variables with their texts
- `Environment.addMissing` — a variable that is kept if there is one already
-/

namespace SqlFormula

/-- The variables of the environment. Of two with the same name the first counts. -/
structure Environment where
  entries : List (String × String)

namespace Environment

/-- No variables. -/
def empty : Environment :=
  ⟨[]⟩

/-- The text of a variable. -/
def get? (e : Environment) (name : String) : Option String :=
  e.entries.lookup name

/-- The text of a variable, unless it is empty. -/
def nonEmpty? (e : Environment) (name : String) : Option String :=
  (e.get? name).filter (· != "")

/-- Adds a variable. One with the same name stays as it is. -/
def addMissing (e : Environment) (name text : String) : Environment :=
  ⟨e.entries ++ [(name, text)]⟩

theorem get?_addMissing_of_some {e : Environment} {name text old : String} (h : e.get? name = some old) :
    (e.addMissing name text).get? name = some old := by
  simp only [get?, addMissing] at h ⊢
  simp [List.lookup_append, h]

theorem get?_addMissing_of_none {e : Environment} {name text : String} (h : e.get? name = none) :
    (e.addMissing name text).get? name = some text := by
  simp only [get?, addMissing] at h ⊢
  simp [List.lookup_append, h]

end Environment

end SqlFormula
