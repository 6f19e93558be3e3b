/-!
# Bytes of a text

Texts are stored in UTF-8. This module goes from a text to its bytes and back: strictly, where bytes
that are no UTF-8 are refused, and leniently, where each broken sequence becomes the replacement
character.

## Main definitions

- `bytesOf` — the UTF-8 bytes of a text
- `ofBytes?` — the text with the given bytes, if they are UTF-8
- `ofBytesLossy` — the same with `U+FFFD` for each broken sequence
- `byteLength` — the number of bytes of a list of characters
-/

namespace SqlFormula.Text

/-- The bytes of a text in UTF-8. -/
def bytesOf (s : String) : List UInt8 :=
  s.toUTF8.data.toList

/-- The text with the given UTF-8 bytes. -/
def ofBytes? (bytes : List UInt8) : Option String :=
  String.fromUTF8? ⟨bytes.toArray⟩

/-- The number of bytes that characters take in UTF-8. -/
def byteLength (cs : List Char) : Nat :=
  cs.foldl (fun n c => n + c.utf8Size) 0

/-- A byte that continues a sequence. -/
def isContinuation (b : UInt8) : Bool :=
  0x80 ≤ b && b ≤ 0xBF

/-- The first two bytes of a sequence of three that encodes a character. -/
def opensThree (b₀ b₁ : UInt8) : Bool :=
  (b₀ == 0xE0 && 0xA0 ≤ b₁ && b₁ ≤ 0xBF) ||
    (0xE1 ≤ b₀ && b₀ ≤ 0xEC && isContinuation b₁) ||
    (b₀ == 0xED && 0x80 ≤ b₁ && b₁ ≤ 0x9F) ||
    (0xEE ≤ b₀ && b₀ ≤ 0xEF && isContinuation b₁)

/-- The first two bytes of a sequence of four that encodes a character. -/
def opensFour (b₀ b₁ : UInt8) : Bool :=
  (b₀ == 0xF0 && 0x90 ≤ b₁ && b₁ ≤ 0xBF) ||
    (0xF1 ≤ b₀ && b₀ ≤ 0xF3 && isContinuation b₁) ||
    (b₀ == 0xF4 && 0x80 ≤ b₁ && b₁ ≤ 0x8F)

/-- The six low bits of a continuation byte. -/
def lowBits (b : UInt8) : Nat :=
  b.toNat % 64

/-- The character that stands for a broken sequence. -/
def replacement : Char := '\uFFFD'

/-- Reads bytes as UTF-8. A sequence that breaks off, as far as it is a beginning of a valid one, and
a byte that begins none become one replacement character each. -/
def decodeLossy : List UInt8 → List Char
  | [] => []
  | b₀ :: rest =>
    if b₀ < 0x80 then Char.ofNat b₀.toNat :: decodeLossy rest
    else match rest with
      | [] => [replacement]
      | b₁ :: rest₁ =>
        if 0xC2 ≤ b₀ && b₀ ≤ 0xDF && isContinuation b₁ then
          Char.ofNat (b₀.toNat % 32 * 64 + lowBits b₁) :: decodeLossy rest₁
        else if opensThree b₀ b₁ then
          match rest₁ with
          | [] => [replacement]
          | b₂ :: rest₂ =>
            if isContinuation b₂ then
              Char.ofNat ((b₀.toNat % 16 * 64 + lowBits b₁) * 64 + lowBits b₂) :: decodeLossy rest₂
            else replacement :: decodeLossy (b₂ :: rest₂)
        else if opensFour b₀ b₁ then
          match rest₁ with
          | [] => [replacement]
          | b₂ :: rest₂ =>
            if isContinuation b₂ then
              match rest₂ with
              | [] => [replacement]
              | b₃ :: rest₃ =>
                if isContinuation b₃ then
                  Char.ofNat
                      (((b₀.toNat % 8 * 64 + lowBits b₁) * 64 + lowBits b₂) * 64 + lowBits b₃) ::
                    decodeLossy rest₃
                else replacement :: decodeLossy (b₃ :: rest₃)
            else replacement :: decodeLossy (b₂ :: rest₂)
        else replacement :: decodeLossy (b₁ :: rest₁)
termination_by bytes => bytes.length

/-- Reads bytes as UTF-8, with a replacement character for each broken sequence. -/
def ofBytesLossy (bytes : List UInt8) : String :=
  String.ofList (decodeLossy bytes)

end SqlFormula.Text
