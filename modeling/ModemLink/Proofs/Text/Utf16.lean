import ModemLink.Text.Utf16

/-!
# Reading back the code units of a text

`decodeChars_encode` says that a text is read back from its code units. It is put together from one
character at a time (`decodeChars_encodeChar`): whatever units follow, a unit that is no surrogate
reads as itself and a pair of surrogates as one character.
-/

namespace ModemLink.Utf16

/-! ## Surrogates -/

theorem isHigh_iff {u : UInt16} : isHigh u = true ↔ 0xD800 ≤ u.toNat ∧ u.toNat < 0xDC00 := by
  simp [isHigh, UInt16.le_iff_toNat_le, UInt16.lt_iff_toNat_lt]

theorem isLow_iff {u : UInt16} : isLow u = true ↔ 0xDC00 ≤ u.toNat ∧ u.toNat < 0xE000 := by
  simp [isLow, UInt16.le_iff_toNat_le, UInt16.lt_iff_toNat_lt]

theorem toNat_ofNat {n : Nat} (fits : n < 0x10000) : n.toUInt16.toNat = n := by
  rw [Nat.toUInt16, UInt16.toNat_ofNat', Nat.mod_eq_of_lt fits]

/-- No character has the number of a surrogate. -/
theorem toNat_cases (c : Char) :
    c.toNat < 0xD800 ∨ (0xE000 ≤ c.toNat ∧ c.toNat < 0x10000) ∨
      (0x10000 ≤ c.toNat ∧ c.toNat < 0x110000) := by
  have valid : c.toNat < 0xD800 ∨ 0xDFFF < c.toNat ∧ c.toNat < 0x110000 := c.valid
  omega

/-! ## One character -/

theorem decodeChars_single {u : UInt16} (noHigh : isHigh u = false) (noLow : isLow u = false)
    (rest : List UInt16) : decodeChars (u :: rest) = Char.ofNat u.toNat :: decodeChars rest := by
  cases rest with
  | nil => simp [decodeChars, noHigh, noLow]
  | cons v rest => simp [decodeChars, noHigh, noLow]

theorem decodeChars_pair {u v : UInt16} (high : isHigh u = true) (low : isLow v = true)
    (rest : List UInt16) : decodeChars (u :: v :: rest) = combine u v :: decodeChars rest := by
  simp [decodeChars, high, low]

/-- A character is read back from its code units, whatever follows them. -/
theorem decodeChars_encodeChar (c : Char) (rest : List UInt16) :
    decodeChars (encodeChar c ++ rest) = c :: decodeChars rest := by
  have bounds := toNat_cases c
  by_cases basic : c.toNat < 0x10000
  · have same := toNat_ofNat basic
    have noHigh : isHigh c.toNat.toUInt16 = false := by
      rw [← Bool.not_eq_true, isHigh_iff]
      omega
    have noLow : isLow c.toNat.toUInt16 = false := by
      rw [← Bool.not_eq_true, isLow_iff]
      omega
    simp only [encodeChar, if_pos basic, List.singleton_append]
    rw [decodeChars_single noHigh noLow, same, Char.ofNat_toNat]
  · let high := 0xD800 + (c.toNat - 0x10000) / 0x400
    let low := 0xDC00 + (c.toNat - 0x10000) % 0x400
    have highSame : high.toUInt16.toNat = high := toNat_ofNat (by omega)
    have lowSame : low.toUInt16.toNat = low := toNat_ofNat (by omega)
    have number : 0x10000 + (high - 0xD800) * 0x400 + (low - 0xDC00) = c.toNat := by omega
    simp only [encodeChar, if_neg basic, List.cons_append, List.nil_append]
    change decodeChars (high.toUInt16 :: low.toUInt16 :: rest) = _
    rw [decodeChars_pair (isHigh_iff.mpr (by omega)) (isLow_iff.mpr (by omega)), combine, highSame,
      lowSame, number, Char.ofNat_toNat]

/-! ## Texts -/

theorem decodeChars_encode (text : String) : decodeChars (encode text) = text.toList := by
  rw [encode]
  induction text.toList with
  | nil => rfl
  | cons c cs ih => rw [List.flatMap_cons, decodeChars_encodeChar, ih]

end ModemLink.Utf16
