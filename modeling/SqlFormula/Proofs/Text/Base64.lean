import SqlFormula.Text.Base64

/-!
# Base64 is read back

## Main statements

- `letter?_letter` — a letter of the alphabet stands for its number
- `decode_encode` — bytes are read back from their text
-/

namespace SqlFormula.Text.Base64

/-- A letter of the alphabet stands for its number. -/
theorem letter?_letter {n : Nat} (h : n < 64) : letter? (letter n) = some n := by
  have hall : ∀ n : Fin 64, letter? (letter n) = some n.val := by decide
  exact hall ⟨n, h⟩

theorem letter_ne_fill {n : Nat} (h : n < 64) : letter n ≠ '=' := by
  intro heq
  have hletter := letter?_letter h
  rw [heq] at hletter
  cases hletter

/-- The first byte of a group comes from its first two letters. -/
theorem first_byte (a b : UInt8) :
    UInt8.ofNat (a.toNat / 4 * 4 + (a.toNat % 4 * 16 + b.toNat / 16) / 16) = a := by
  have hb := b.toNat_lt
  rw [show a.toNat / 4 * 4 + (a.toNat % 4 * 16 + b.toNat / 16) / 16 = a.toNat by omega]
  exact UInt8.ofNat_toNat

theorem second_byte (a b c : UInt8) :
    UInt8.ofNat ((a.toNat % 4 * 16 + b.toNat / 16) % 16 * 16 + (b.toNat % 16 * 4 + c.toNat / 64) / 4) = b := by
  have hb := b.toNat_lt
  have hc := c.toNat_lt
  rw [show (a.toNat % 4 * 16 + b.toNat / 16) % 16 * 16 + (b.toNat % 16 * 4 + c.toNat / 64) / 4 = b.toNat by omega]
  exact UInt8.ofNat_toNat

theorem third_byte (b c : UInt8) :
    UInt8.ofNat ((b.toNat % 16 * 4 + c.toNat / 64) % 4 * 64 + c.toNat % 64) = c := by
  have hc := c.toNat_lt
  rw [show (b.toNat % 16 * 4 + c.toNat / 64) % 4 * 64 + c.toNat % 64 = c.toNat by omega]
  exact UInt8.ofNat_toNat

/-- Four letters are no last group, and are read as three bytes. -/
theorem decode_letters {x y z w : Nat} (hx : x < 64) (hy : y < 64) (hz : z < 64) (hw : w < 64) (cs : List Char) :
    decode (letter x :: letter y :: letter z :: letter w :: cs) =
      (decode cs).map fun bytes => UInt8.ofNat (x * 4 + y / 16) :: UInt8.ofNat (y % 16 * 16 + z / 4) ::
        UInt8.ofNat (z % 4 * 64 + w) :: bytes := by
  have hfill := letter_ne_fill hw
  rw [decode]
  · simp only [letter?_letter hx, letter?_letter hy, letter?_letter hz, letter?_letter hw, Option.bind_eq_bind,
      Option.bind_some]
    cases decode cs <;> rfl
  · intro _ h
    simp_all
  · intro h
    simp_all

/-- **Bytes are read back from their text.** -/
theorem decode_encode (bytes : List UInt8) : decode (encode bytes) = some bytes := by
  fun_induction encode bytes with
  | case1 => rfl
  | case2 a =>
    -- two letters for a byte that is left over; the low bits of the second are zero
    have ha := a.toNat_lt
    have hx := @letter?_letter (a.toNat / 4) (by omega)
    have hy := @letter?_letter (a.toNat % 4 * 16) (by omega)
    have hrest : a.toNat % 4 * 16 % 16 = 0 := by omega
    simp only [decode, hx, hy, Option.bind_eq_bind, Option.bind_some, decodeLast, hrest, if_true]
    exact congrArg (fun byte => some [byte]) (first_byte a 0)
  | case3 a b =>
    -- three letters for two bytes that are left over
    have ha := a.toNat_lt
    have hb := b.toNat_lt
    have hz := @letter?_letter (b.toNat % 16 * 4) (by omega)
    have hrest : b.toNat % 16 * 4 % 4 = 0 := by omega
    rw [decode]
    · simp only [@letter?_letter (a.toNat / 4) (by omega), @letter?_letter (a.toNat % 4 * 16 + b.toNat / 16) (by omega),
        hz, Option.bind_eq_bind, Option.bind_some, decodeLast, hrest, if_true, first_byte]
      exact congrArg (fun byte => some [a, byte]) (second_byte a b 0)
    · exact letter_ne_fill (by omega)
  | case4 a b c rest ih =>
    have ha := a.toNat_lt
    have hb := b.toNat_lt
    have hc := c.toNat_lt
    rw [decode_letters (by omega) (by omega) (by omega) (by omega), ih, Option.map_some, first_byte, second_byte,
      third_byte]

end SqlFormula.Text.Base64
