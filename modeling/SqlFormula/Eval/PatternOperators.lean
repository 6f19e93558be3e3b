import SqlFormula.Eval.Context
import SqlFormula.Eval.Error
import SqlFormula.Regex.Match
import SqlFormula.Regex.Read
import SqlFormula.Regex.Size
import SqlFormula.Syntax.Operator
import SqlFormula.Text.LetterCase

/-!
# Pattern operators

`LIKE` and `GLOB` patterns have notations of their own, which are brought to that of regular expressions;
`REGEXP` takes regular expressions as they are, and `MATCH` looks for words.

## Main definitions

- `likeRegex`, `globRegex` — the regular expressions of `LIKE` and `GLOB` patterns
- `matchesTerms` — the test of `MATCH`
- `patternMatch` — any of the four operators
-/

namespace SqlFormula

/-! ### Notations -/

/-- A character that stands for itself in a regular expression. -/
def escapeChar (c : Char) : List Char :=
  if Regex.isMeta c then ['\\', c] else [c]

/-- What a `LIKE` pattern's character stands for: `%` for any text, `_` for any character. -/
def likePart (c : Char) : List Char :=
  if c = '%' then ['.', '*'] else if c = '_' then ['.'] else escapeChar c

/-- A regular expression for whole texts, in which `.` matches line ends as well. -/
def anchored (parts : List Char) : List Char :=
  "(?s)^".toList ++ parts ++ ['$']

/-- The regular expression of a `LIKE` pattern. -/
def likeRegex (pattern : List Char) : List Char :=
  anchored (pattern.flatMap likePart)

/-- A member of a class, as a member of a class of a regular expression. -/
def classMember (c : Char) : List Char :=
  if "\\[]&~".toList.contains c then ['\\', c] else [c]

/-- The members of a class and what comes after its bracket, given what comes after its opening bracket and
`^`, if the class is closed. A closing bracket in the first place is a member. -/
def classMembers? (cs : List Char) : Option (List Char × List Char) :=
  let first := if cs.head? = some ']' then [']'] else []
  let rest := cs.drop first.length
  let others := rest.takeWhile (· != ']')
  match rest.drop others.length with
  | _ :: after => some (first ++ others, after)
  | [] => none

/-- A class at the front of a text, after its opening bracket: the class of a regular expression for it, and
what comes after it. -/
def globClass? (cs : List Char) : Option (List Char × List Char) :=
  let mark := if cs.head? = some '^' then ['^'] else []
  (classMembers? (cs.drop mark.length)).map fun (members, after) =>
    ('[' :: mark ++ members.flatMap classMember ++ [']'], after)

theorem length_globClass?_lt {cs part after : List Char} (h : globClass? cs = some (part, after)) :
    after.length < cs.length := by
  simp only [globClass?, classMembers?, Option.map_eq_some_iff, Prod.mk.injEq] at h
  obtain ⟨⟨members, rest⟩, h, -, rfl⟩ := h
  split at h
  · next after hd =>
    simp only [Option.some.injEq, Prod.mk.injEq] at h
    have := congrArg List.length hd
    simp only [List.length_drop, List.length_cons] at this
    have hrest : rest = after := h.2.symm
    subst hrest
    dsimp only
    omega
  · simp at h

/-- The parts of the regular expression of a `GLOB` pattern: `*` stands for any text, `?` for any character, and
brackets for classes; a bracket that is never closed stands for itself. -/
def globParts : List Char → List Char
  | [] => []
  | '*' :: cs => '.' :: '*' :: globParts cs
  | '?' :: cs => '.' :: globParts cs
  | '[' :: cs =>
    match _h : globClass? cs with
    | some (part, after) => part ++ globParts after
    | none => '\\' :: '[' :: globParts cs
  | c :: cs => escapeChar c ++ globParts cs
termination_by cs => cs.length
decreasing_by
  all_goals simp only [List.length_cons]
  all_goals try omega
  exact Nat.lt_succ_of_lt (length_globClass?_lt _h)

/-- The regular expression of a `GLOB` pattern. -/
def globRegex (pattern : List Char) : List Char :=
  anchored (globParts pattern)

/-! ### Words -/

/-- The words of a text in lower case: its runs of letters and digits. -/
def wordsOf (text : String) : List String :=
  (Text.partsBetween (fun c => !Text.isAlphanumeric c) text).map Text.lower

/-- Whether every term of a query is a word of a text, where case is of no account. A query without terms
matches nothing. -/
def matchesTerms (text query : String) : Bool :=
  let terms := Text.words query
  let words := wordsOf text
  !terms.isEmpty && terms.all fun term => words.contains (Text.lower term)

/-! ### Operators -/

/-- How much of a pattern that is too long is shown. -/
def shownLength : Nat := 32

/-- Whether some part of a text matches a regular expression. -/
def regexMatch (options : Options) (caseless : Bool) (text : String) (regex : List Char) :
    Except EvalError Bool :=
  match (Regex.Pattern.read? caseless regex).filter (Regex.Pattern.fits options.patternSizeLimit) with
  | some p => .ok (p.isFoundIn text.toList)
  | none => .error (.invalidPattern (String.ofList regex) .rejected)

/-- Applies a pattern operator to two texts. -/
def patternMatch (options : Options) (op : BinaryOperator) (text pattern : String) : Except EvalError Bool :=
  let cs := pattern.toList
  if options.maxPatternLength < cs.length then
    .error (.invalidPattern (String.ofList (cs.take shownLength)) (.tooLong options.maxPatternLength))
  else match op with
    | .like => regexMatch options (!options.likeCaseSensitive) text (likeRegex cs)
    | .glob => regexMatch options false text (globRegex cs)
    | .regexp => regexMatch options false text cs
    | .match => .ok (matchesTerms text pattern)
    | op => .error (.typeMismatch op.symbol "text" "text")

end SqlFormula
