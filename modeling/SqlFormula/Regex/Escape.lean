import SqlFormula.Reader
import SqlFormula.Regex.Property
import SqlFormula.Regex.Syntax
import SqlFormula.Text.Blank
import SqlFormula.Text.Hex
import SqlFormula.Text.Letter

/-!
# Escapes in regular expressions

What a backslash and the characters after it stand for. Modes are applied while reading.

## Main definitions

- `RegexReader` — readers whose only error is that what they read is no regular expression
- `escape` — the reader of what comes after a backslash
-/

namespace SqlFormula.Regex

open Reader

/-- The only error: what is read is no regular expression. -/
inductive Rejected where
  | rejected

/-- Readers of regular expressions. -/
abbrev RegexReader := Reader Char Rejected

/-- Rejects what is read. -/
def reject {α : Type} : RegexReader α :=
  fail .rejected

/-- A result, or a rejection. -/
def orReject {α : Type} : Option α → RegexReader α
  | some a => pure a
  | none => reject

/-- Takes the next character, which has to exist. -/
def anyChar : RegexReader Char := do
  orReject (← next?)

/-- Takes a character if it comes next. -/
def eat (c : Char) : RegexReader Bool := do
  if (← peek?) = some c then
    skip 1
    pure true
  else pure false

/-- Takes some characters if they come next. -/
def eatAll (cs : List Char) : RegexReader Bool := do
  if cs.isPrefixOf (← ahead) then
    skip cs.length
    pure true
  else pure false

/-- The text without blanks and comments at its front. A comment goes from `#` to the end of the line. -/
def dropVerbose : List Char → List Char
  | [] => []
  | c :: cs =>
    if Text.isBlank c then dropVerbose cs
    else if c = '#' then dropVerbose (cs.dropWhile (· != '\n'))
    else c :: cs
termination_by cs => cs.length
decreasing_by
  · simp
  · have := (List.dropWhile_suffix (fun x : Char => x != '\n') (l := cs)).length_le
    simp only [List.length_cons]
    omega

/-- In verbose mode, takes blanks and comments. -/
def gap (f : Flags) : RegexReader Unit := do
  if f.verbose then
    let cs ← ahead
    skip (cs.length - (dropVerbose cs).length)

/-! ### Escapes -/

/-- What a backslash and the characters after it stand for. -/
inductive Escape where
  /-- A character; `isByte` tells that it was given by two hexadecimal digits. -/
  | literal (c : Char) (isByte : Bool)
  | set (s : CharSet)
  | look (l : Look)

/-- The characters that have a meaning of their own. -/
def isMeta (c : Char) : Bool :=
  "\\.+*?()|[]\x7b\x7d^$#&-~".toList.contains c

/-- The characters that a backslash may stand before without changing them. -/
def isEscapable (c : Char) : Bool :=
  isMeta c || (c.toNat < 0x80 && !c.isAlphanum && c != '<' && c != '>')

/-- The character with a code. -/
def charOf? (n : Nat) : Option Char :=
  if n.isValidChar then some (Char.ofNat n) else none

/-- Reads a number of hexadecimal digits; `n` is that of the digits before. -/
def hexFixed (f : Flags) (n : Nat) : Nat → RegexReader Nat
  | 0 => pure n
  | more + 1 => do
    let d ← orReject (Text.Hex.digit? (← anyChar))
    gap f
    hexFixed f (16 * n + d) more

/-- The number of hexadecimal digits, at least one. -/
def hexValue? (cs : List Char) : Option Nat :=
  if cs.isEmpty then none
  else cs.foldlM (fun n c => (Text.Hex.digit? c).map fun d => 16 * n + d) 0

/-- Reads up to a closing brace; blanks are dropped in verbose mode. -/
def braced (f : Flags) : RegexReader (List Char) := do
  let cs ← takeWhile (· != '\x7d')
  if ← eat '\x7d' then pure (if f.verbose then cs.filter (!Text.isBlank ·) else cs) else reject

/-- Reads the code of a character: so many hexadecimal digits, or any number of them in braces. -/
def hexEscape (f : Flags) (digits : Nat) : RegexReader Escape := do
  gap f
  if ← eat '\x7b' then
    let n ← orReject (hexValue? (← braced f))
    gap f
    return .literal (← orReject (charOf? n)) false
  else
    let n ← hexFixed f 0 digits
    return .literal (← orReject (charOf? n)) (digits = 2)

/-- A set as the modes want it, and its complement if it is denied. -/
def foldAndNegate (f : Flags) (negated : Bool) (s : CharSet) : CharSet :=
  let folded := if !f.caseless then s else if f.unicode then .caseless s else .asciiCaseless s
  if negated then .complement folded else folded

/-- Reads the name of a property: one letter, or any name in braces. Properties are of no use in ASCII mode. -/
def propertyEscape (f : Flags) (negated : Bool) : RegexReader Escape := do
  gap f
  let c ← anyChar
  if !f.unicode then reject
  else if c = '\x7b' then
    let (s, denied) ← orReject (CharSet.property? (← braced f))
    return .set (foldAndNegate f (negated != denied) s)
  else if c = '\\' then reject
  else
    gap f
    let s ← orReject (CharSet.category? (CharSet.plainName (toString c)))
    return .set (foldAndNegate f negated s)

/-- The set of a class with a letter of its own. Complements go beyond ASCII, so ASCII mode refuses them. -/
def letterClass (f : Flags) (unicode ascii : CharSet) (negated : Bool) : RegexReader Escape :=
  if f.unicode then pure (.set (if negated then .complement unicode else unicode))
  else if negated then reject
  else pure (.set ascii)

/-- The characters of words. -/
def wordSet (f : Flags) : CharSet :=
  if f.unicode then CharSet.word else CharSet.asciiWord

/-- A character that can occur in the name of a condition on words. -/
def isBoundaryChar (c : Char) : Bool :=
  c.isAlpha || c == '-'

/-- The condition on words with a name. -/
def namedBoundary? (word : CharSet) : String → Option Look
  | "start" => some (.wordStart word)
  | "end" => some (.wordEnd word)
  | "start-half" => some (.wordStartHalf word)
  | "end-half" => some (.wordEndHalf word)
  | _ => none

/-- Reads the name of a condition on words in braces, if one comes next; other braces are those of a counted
repetition. -/
def boundaryEscape (f : Flags) : RegexReader Escape := do
  let word := wordSet f
  match ← ahead with
  | '\x7b' :: rest =>
    match (if f.verbose then dropVerbose rest else rest) with
    | [] => reject
    | c :: _ =>
      if isBoundaryChar c then
        skip 1
        let name ← braced f
        return .look (← orReject (namedBoundary? word (String.ofList name)))
      else pure (.look (.wordBoundary word))
  | _ => pure (.look (.wordBoundary word))

/-- A character that a letter after a backslash stands for. -/
def letterEscape? : Char → Option Char
  | 'a' => some '\x07'
  | 'f' => some '\x0C'
  | 't' => some '\t'
  | 'n' => some '\n'
  | 'r' => some '\r'
  | 'v' => some '\x0B'
  | _ => none

/-- Reads what comes after a backslash. -/
def escape (f : Flags) : RegexReader Escape := do
  let c ← anyChar
  match c with
  | 'x' => hexEscape f 2
  | 'u' => hexEscape f 4
  | 'U' => hexEscape f 8
  | 'p' => propertyEscape f false
  | 'P' => propertyEscape f true
  | 'd' => letterClass f CharSet.digit CharSet.asciiDigit false
  | 'D' => letterClass f CharSet.digit CharSet.asciiDigit true
  | 's' => letterClass f CharSet.blank CharSet.asciiBlank false
  | 'S' => letterClass f CharSet.blank CharSet.asciiBlank true
  | 'w' => letterClass f CharSet.word CharSet.asciiWord false
  | 'W' => letterClass f CharSet.word CharSet.asciiWord true
  | 'A' => pure (.look .textStart)
  | 'z' => pure (.look .textEnd)
  | 'b' => boundaryEscape f
  | 'B' => pure (.look (.notWordBoundary (wordSet f)))
  | '<' => pure (.look (.wordStart (wordSet f)))
  | '>' => pure (.look (.wordEnd (wordSet f)))
  | c =>
    if isEscapable c then pure (.literal c false)
    else return .literal (← orReject (letterEscape? c)) false

end SqlFormula.Regex
