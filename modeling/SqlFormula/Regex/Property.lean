import SqlFormula.Regex.CharSet
import SqlFormula.Text.Category
import SqlFormula.Text.Letter
import SqlFormula.Text.Script

/-!
# Properties of characters

Patterns name sets of characters by properties: general categories, scripts, and properties that hold or
do not. Case, blanks, hyphens and underscores in names are of no account.

## Main definitions

- `CharSet.word`, `CharSet.digit`, `CharSet.blank` — the sets of `\w`, `\d` and `\s`
- `CharSet.property?` — the set that a name stands for
-/

namespace SqlFormula.Regex

namespace CharSet

open Text (RangeTable)

/-! ### Tables -/

/-- Characters other than lower-case letters with the property `Lowercase`. -/
def otherLowercase : RangeTable := RangeTable.ofText "
    AA BA 2B0-2B8 2C0-2C1 2E0-2E4 345 37A 10FC 1D2C-1D6A 1D78 1D9B-1DBF 2071 207F 2090-209C
    2170-217F 24D0-24E9 2C7C-2C7D A69C-A69D A770 A7F1-A7F4 A7F8-A7F9 AB5C-AB5F AB69 10780
    10783-10785 10787-107B0 107B2-107BA 1E030-1E06D"

/-- Characters other than upper-case letters with the property `Uppercase`. -/
def otherUppercase : RangeTable := RangeTable.ofText "
    2160-216F 24B6-24CF 1F130-1F149 1F150-1F169 1F170-1F189"

/-- Characters with the property `Ideographic`. -/
def ideographic : RangeTable := RangeTable.ofText "
    3006-3007 3021-3029 3038-303A 3400-4DBF 4E00-9FFF F900-FA6D FA70-FAD9 16FE4 16FF2-16FF6
    17000-18CD5 18CFF-18D1E 18D80-18DF2 1B170-1B2FB 20000-2A6DF 2A700-2B81D 2B820-2CEAD
    2CEB0-2EBE0 2EBF0-2EE5D 2F800-2FA1D 30000-3134A 31350-33479"

/-- Characters with the property `Math`. -/
def math : RangeTable := RangeTable.ofText "
    2B 3C-3E 5E 7C 7E AC B1 D7 F7 3D0-3D2 3D5 3F0-3F1 3F4-3F6 606-608 2016 2032-2034 2040 2044
    2052 2061-2064 207A-207E 208A-208E 20D0-20DC 20E1 20E5-20E6 20EB-20EF 2102 2107 210A-2113
    2115 2118-211D 2124 2128-2129 212C-212D 212F-2131 2133-2138 213C-2149 214B 2190-21A7
    21A9-21AE 21B0-21B1 21B6-21B7 21BC-21DB 21DD 21E4-21E5 21F4-22FF 2308-230B 2320-2321 237C
    239B-23B5 23B7 23D0 23DC-23E2 25A0-25A1 25AE-25B7 25BC-25C1 25C6-25C7 25CA-25CB 25CF-25D3
    25E2 25E4 25E7-25EC 25F8-25FF 2605-2606 2640 2642 2660-2663 266D-266F 27C0-27FF 2900-2AFF
    2B30-2B44 2B47-2B4C FB29 FE61-FE66 FE68 FF0B FF1C-FF1E FF3C FF3E FF5C FF5E FFE2 FFE9-FFEC
    10D8E-10D8F 1CEF0 1D400-1D454 1D456-1D49C 1D49E-1D49F 1D4A2 1D4A5-1D4A6 1D4A9-1D4AC
    1D4AE-1D4B9 1D4BB 1D4BD-1D4C3 1D4C5-1D505 1D507-1D50A 1D50D-1D514 1D516-1D51C 1D51E-1D539
    1D53B-1D53E 1D540-1D544 1D546 1D54A-1D550 1D552-1D6A5 1D6A8-1D7CB 1D7CE-1D7FF 1EE00-1EE03
    1EE05-1EE1F 1EE21-1EE22 1EE24 1EE27 1EE29-1EE32 1EE34-1EE37 1EE39 1EE3B 1EE42 1EE47 1EE49
    1EE4B 1EE4D-1EE4F 1EE51-1EE52 1EE54 1EE57 1EE59 1EE5B 1EE5D 1EE5F 1EE61-1EE62 1EE64
    1EE67-1EE6A 1EE6C-1EE72 1EE74-1EE77 1EE79-1EE7C 1EE7E 1EE80-1EE89 1EE8B-1EE9B 1EEA1-1EEA3
    1EEA5-1EEA9 1EEAB-1EEBB 1EEF0-1EEF1 1F8D0-1F8D8"

/-- Characters with the property `Dash`. -/
def dash : RangeTable := RangeTable.ofText "
    2D 58A 5BE 1400 1806 2010-2015 2053 207B 208B 2212 2E17 2E1A 2E3A-2E3B 2E40 2E5D 301C 3030
    30A0 FE31-FE32 FE58 FE63 FF0D 10D6E 10EAD"

/-- Characters with the property `Emoji`. -/
def emoji : RangeTable := RangeTable.ofText "
    23 2A 30-39 A9 AE 203C 2049 2122 2139 2194-2199 21A9-21AA 231A-231B 2328 23CF 23E9-23F3
    23F8-23FA 24C2 25AA-25AB 25B6 25C0 25FB-25FE 2600-2604 260E 2611 2614-2615 2618 261D 2620
    2622-2623 2626 262A 262E-262F 2638-263A 2640 2642 2648-2653 265F-2660 2663 2665-2666 2668
    267B 267E-267F 2692-2697 2699 269B-269C 26A0-26A1 26A7 26AA-26AB 26B0-26B1 26BD-26BE
    26C4-26C5 26C8 26CE-26CF 26D1 26D3-26D4 26E9-26EA 26F0-26F5 26F7-26FA 26FD 2702 2705
    2708-270D 270F 2712 2714 2716 271D 2721 2728 2733-2734 2744 2747 274C 274E 2753-2755 2757
    2763-2764 2795-2797 27A1 27B0 27BF 2934-2935 2B05-2B07 2B1B-2B1C 2B50 2B55 3030 303D 3297
    3299 1F004 1F0CF 1F170-1F171 1F17E-1F17F 1F18E 1F191-1F19A 1F1E6-1F1FF 1F201-1F202 1F21A
    1F22F 1F232-1F23A 1F250-1F251 1F300-1F321 1F324-1F393 1F396-1F397 1F399-1F39B 1F39E-1F3F0
    1F3F3-1F3F5 1F3F7-1F4FD 1F4FF-1F53D 1F549-1F54E 1F550-1F567 1F56F-1F570 1F573-1F57A 1F587
    1F58A-1F58D 1F590 1F595-1F596 1F5A4-1F5A5 1F5A8 1F5B1-1F5B2 1F5BC 1F5C2-1F5C4 1F5D1-1F5D3
    1F5DC-1F5DE 1F5E1 1F5E3 1F5E8 1F5EF 1F5F3 1F5FA-1F64F 1F680-1F6C5 1F6CB-1F6D2 1F6D5-1F6D8
    1F6DC-1F6E5 1F6E9 1F6EB-1F6EC 1F6F0 1F6F3-1F6FC 1F7E0-1F7EB 1F7F0 1F90C-1F93A 1F93C-1F945
    1F947-1F9FF 1FA70-1FA7C 1FA80-1FA8A 1FA8E-1FAC6 1FAC8 1FACD-1FADC 1FADF-1FAEA 1FAEF-1FAF8"

/-- Characters with the property `Hex_Digit`. -/
def hexDigit : RangeTable := RangeTable.ofText "
    30-39 41-46 61-66 FF10-FF19 FF21-FF26 FF41-FF46"

/-- Characters with the property `Quotation_Mark`. -/
def quotationMark : RangeTable := RangeTable.ofText "
    22 27 AB BB 2018-201F 2039-203A 2E42 300C-300F 301D-301F FE41-FE44 FF02 FF07 FF62-FF63"

/-- The characters of some general categories. -/
def categories (names : List String) : CharSet :=
  unions (names.map fun name => .table (Text.categoryTable name))

/-- The characters that belong to no category, because Unicode has not assigned them. -/
def unassigned : CharSet :=
  .complement (unions (Text.categoryTables.map fun (_, t) => .table t))

/-! ### Sets with an escape of their own -/

/-- Decimal digits. -/
def digit : CharSet := categories ["nd"]

/-- Characters with the property `White_Space`. -/
def blank : CharSet :=
  unions [.range 0x9 0xD, .range 0x20 0x20, .range 0x85 0x85, .range 0xA0 0xA0, .range 0x1680 0x1680,
    .range 0x2000 0x200A, .range 0x2028 0x2029, .range 0x202F 0x202F, .range 0x205F 0x205F,
    .range 0x3000 0x3000]

/-- Characters with the property `Alphabetic`. -/
def alphabetic : CharSet :=
  unions [.range 0x41 0x5A, .range 0x61 0x7A, .table Text.alphabeticTable]

/-- The characters of words: letters, marks, decimal digits, connecting punctuation and joiners. -/
def word : CharSet :=
  unions [alphabetic, categories ["mn", "mc", "me", "nd", "pc"], .range 0x200C 0x200D]

/-- ASCII digits. -/
def asciiDigit : CharSet := .range 0x30 0x39

/-- ASCII blanks. -/
def asciiBlank : CharSet := unions [.range 0x9 0xD, .range 0x20 0x20]

/-- ASCII letters, digits and the underscore. -/
def asciiWord : CharSet :=
  unions [.range 0x30 0x39, .range 0x41 0x5A, .range 0x5F 0x5F, .range 0x61 0x7A]

/-! ### Names -/

/-- The characters of a name that are of account, in lower case. -/
def plainChars (cs : List Char) : List Char :=
  (cs.filter fun c => c.toNat < 0x80 && !(c == ' ' || c == '_' || c == '-')).map Char.toLower

/-- A name without what is of no account in it, which includes the word `is` at its beginning. -/
def plainName (name : String) : String :=
  match name.toList with
  | i :: s :: rest =>
    if i.toLower = 'i' ∧ s.toLower = 's' then
      let plain := plainChars rest
      if plain = ['c'] then "isc" else String.ofList plain
    else String.ofList (plainChars name.toList)
  | cs => String.ofList (plainChars cs)

/-- The short names of the categories that a name stands for. -/
def categoryNames? : String → Option (List String)
  | "lu" | "uppercaseletter" => some ["lu"]
  | "ll" | "lowercaseletter" => some ["ll"]
  | "lt" | "titlecaseletter" => some ["lt"]
  | "lc" | "casedletter" => some ["lu", "ll", "lt"]
  | "lm" | "modifierletter" => some ["lm"]
  | "lo" | "otherletter" => some ["lo"]
  | "l" | "letter" => some ["lu", "ll", "lt", "lm", "lo"]
  | "mn" | "nonspacingmark" => some ["mn"]
  | "mc" | "spacingmark" => some ["mc"]
  | "me" | "enclosingmark" => some ["me"]
  | "m" | "mark" | "combiningmark" => some ["mn", "mc", "me"]
  | "nd" | "decimalnumber" | "digit" => some ["nd"]
  | "nl" | "letternumber" => some ["nl"]
  | "no" | "othernumber" => some ["no"]
  | "n" | "number" => some ["nd", "nl", "no"]
  | "pc" | "connectorpunctuation" => some ["pc"]
  | "pd" | "dashpunctuation" => some ["pd"]
  | "ps" | "openpunctuation" => some ["ps"]
  | "pe" | "closepunctuation" => some ["pe"]
  | "pi" | "initialpunctuation" => some ["pi"]
  | "pf" | "finalpunctuation" => some ["pf"]
  | "po" | "otherpunctuation" => some ["po"]
  | "p" | "punctuation" | "punct" => some ["pc", "pd", "ps", "pe", "pi", "pf", "po"]
  | "sm" | "mathsymbol" => some ["sm"]
  | "sc" | "currencysymbol" => some ["sc"]
  | "sk" | "modifiersymbol" => some ["sk"]
  | "so" | "othersymbol" => some ["so"]
  | "s" | "symbol" => some ["sm", "sc", "sk", "so"]
  | "zs" | "spaceseparator" => some ["zs"]
  | "zl" | "lineseparator" => some ["zl"]
  | "zp" | "paragraphseparator" => some ["zp"]
  | "z" | "separator" => some ["zs", "zl", "zp"]
  | "cc" | "control" | "cntrl" => some ["cc"]
  | "cf" | "format" => some ["cf"]
  | "co" | "privateuse" => some ["co"]
  | _ => none

/-- The characters of the general category with a name. -/
def category? (name : String) : Option CharSet :=
  match name with
  | "any" => some (.complement (unions []))
  | "assigned" => some (.complement unassigned)
  | "ascii" => some (.range 0 0x7F)
  | "cn" | "unassigned" => some unassigned
  | "c" | "other" => some (.union (categories ["cc", "cf", "co"]) unassigned)
  | name => (categoryNames? name).map categories

/-- The characters of the script with a name. -/
def script? (name : String) : Option CharSet :=
  (Text.scriptTable? name).map CharSet.table

/-- The characters with a property that holds or does not. -/
def binary? : String → Option CharSet
  | "alphabetic" | "alpha" => some alphabetic
  | "lowercase" | "lower" => some (.union (categories ["ll"]) (.table otherLowercase))
  | "uppercase" | "upper" => some (.union (categories ["lu"]) (.table otherUppercase))
  | "whitespace" | "wspace" | "space" => some blank
  | "ideographic" | "ideo" => some (.table ideographic)
  | "math" => some (.table math)
  | "dash" => some (.table dash)
  | "emoji" => some (.table emoji)
  | "hexdigit" | "hex" => some (.table hexDigit)
  | "asciihexdigit" | "ahex" => some (unions [asciiDigit, .range 0x41 0x46, .range 0x61 0x66])
  | "quotationmark" | "qmark" => some (.table quotationMark)
  | "joincontrol" | "joinc" => some (.range 0x200C 0x200D)
  | _ => none

/-- The set that a name alone stands for: a property, a category or a script. -/
def named? (name : String) : Option CharSet :=
  (binary? name).or ((category? name).or (script? name))

/-- The set that a name and a value stand for. -/
def valued? (name value : String) : Option CharSet :=
  match name with
  | "generalcategory" | "gc" => category? value
  | "script" | "sc" => script? value
  | _ => none

/-- The name and the value on the two sides of the first sign between them. -/
def splitSign (sign : List Char) (cs : List Char) : Option (String × String) :=
  (Text.find? sign cs).map fun n =>
    (String.ofList (cs.take n), String.ofList (cs.drop (n + sign.length)))

/-- The set that a name, or a name and a value with a sign between them, stand for, and whether the sign denies
it. -/
def property? (cs : List Char) : Option (CharSet × Bool) :=
  match splitSign ['!', '='] cs with
  | some (name, value) => (valued? (plainName name) (plainName value)).map (·, true)
  | none =>
    match (splitSign [':'] cs).or (splitSign ['='] cs) with
    | some (name, value) => (valued? (plainName name) (plainName value)).map (·, false)
    | none => (named? (plainName (String.ofList cs))).map (·, false)

end CharSet

end SqlFormula.Regex
