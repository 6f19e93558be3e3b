import SqlFormula.Text.Category

/-!
# Texts in double quotes

Quotes, backslashes, control characters, and characters that cannot be seen or that change the one before them
are written after a backslash.

## Main definitions

- `isPrintable`, `extendsBefore` — the classes of characters
- `quoted` — a text in double quotes
-/

namespace SqlFormula.Text

/-- The categories of characters that can be seen. -/
def printableCategories : List RangeTable :=
  ["lu", "ll", "lt", "lm", "lo", "mn", "mc", "me", "nd", "nl", "no", "pc", "pd", "ps", "pe", "pi", "pf", "po",
    "sm", "sc", "sk", "so"].map categoryTable

/-- A character that can be seen, or a plain blank. -/
def isPrintable (c : Char) : Bool :=
  c == ' ' || printableCategories.any fun t => t.contains c

/-- Characters that change the one before them, other than marks without a width of their own. -/
def otherExtenders : RangeTable := RangeTable.ofText "
    9BE 9D7 B3E B57 BBE BD7 CC0 CC2 CC7-CC8 CCA-CCB CD5-CD6 D3E D57 DCF DDF 1715 1734 1B35 1B3B
    1B3D 1B43-1B44 1BAA 1BF2-1BF3 200C 302E-302F A953 A9C0 FF9E-FF9F 111C0 11235 1133E 1134D
    11357 113B8 113C2 113C5 113C7-113C9 113CF 114B0 114BD 115AF 116B6 11930 1193D 11F41
    16FF0-16FF1 1D165-1D166 1D16D-1D172 E0020-E007F"

/-- A character with the property `Grapheme_Extend`. -/
def extendsBefore (c : Char) : Bool :=
  (categoryTable "mn").contains c || (categoryTable "me").contains c || otherExtenders.contains c

/-- A character by its code point in hexadecimal digits. -/
def codePointEscape (c : Char) : List Char :=
  ['\\', 'u', '\x7b'] ++ Nat.toDigits 16 c.toNat ++ ['\x7d']

/-- A character between double quotes. -/
def quotedChar (c : Char) : List Char :=
  match c with
  | '\x00' => ['\\', '0']
  | '\t' => ['\\', 't']
  | '\r' => ['\\', 'r']
  | '\n' => ['\\', 'n']
  | '\\' => ['\\', '\\']
  | '"' => ['\\', '"']
  | c =>
    if ' ' ≤ c ∧ c ≤ '~' then [c]
    else if extendsBefore c || !isPrintable c then codePointEscape c
    else [c]

/-- A text in double quotes. -/
def quoted (s : String) : String :=
  String.ofList ('"' :: s.toList.flatMap quotedChar ++ ['"'])

end SqlFormula.Text
