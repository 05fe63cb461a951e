import Mathlib.Data.Nat.Bitwise
import ModemLink.Codec.FlowControl

/-!
# Flow-control messages there and back

A message whose type fits in two bits is read back from its twenty octets (`decode_encode_append`).
-/

namespace ModemLink

/-! ## Big-endian words -/

theorem toNat_wordOfBigEndian (a b c d : UInt8) :
    (wordOfBigEndian a b c d).toNat =
      2 ^ 24 * a.toNat + (2 ^ 16 * b.toNat + (2 ^ 8 * c.toNat + d.toNat)) := by
  have ha := a.toNat_lt
  have hb := b.toNat_lt
  have hc := c.toNat_lt
  have hd := d.toNat_lt
  have shifted : ∀ (octet : UInt8) (n : Nat), n ≤ 24 →
      (octet.toNat <<< n) % 2 ^ 32 = 2 ^ n * octet.toNat := by
    intro octet n small
    rw [Nat.shiftLeft_eq, Nat.mul_comm]
    have := octet.toNat_lt
    have : 2 ^ n * octet.toNat < 2 ^ 24 * 2 ^ 8 :=
      Nat.mul_lt_mul_of_le_of_lt (Nat.pow_le_pow_right (by decide) small) (by omega) (by decide)
    exact Nat.mod_eq_of_lt this
  unfold wordOfBigEndian
  simp only [UInt32.toNat_or, UInt32.toNat_shiftLeft, UInt8.toNat_toUInt32, UInt32.reduceToNat,
    Nat.reduceMod]
  have low := Nat.two_pow_add_eq_or_of_lt (i := 8) (b := d.toNat) (by omega) c.toNat
  have middle := Nat.two_pow_add_eq_or_of_lt (i := 16) (b := 2 ^ 8 * c.toNat + d.toNat) (by omega)
    b.toNat
  have high := Nat.two_pow_add_eq_or_of_lt (i := 24)
    (b := 2 ^ 16 * b.toNat + (2 ^ 8 * c.toNat + d.toNat)) (by omega) a.toNat
  rw [shifted a 24 (by omega), shifted b 16 (by omega), shifted c 8 (by omega), Nat.or_assoc,
    Nat.or_assoc, ← low, ← middle, ← high]

theorem wordOfBigEndian_octets (w : UInt32) :
    wordOfBigEndian (w >>> 24).toUInt8 (w >>> 16).toUInt8 (w >>> 8).toUInt8 w.toUInt8 = w := by
  have := w.toNat_lt
  apply UInt32.toNat_inj.mp
  rw [toNat_wordOfBigEndian]
  simp only [UInt32.toNat_toUInt8, UInt32.toNat_shiftRight, UInt32.reduceToNat, Nat.reduceMod,
    Nat.shiftRight_eq_div_pow]
  omega

namespace FlowControl

theorem ofCode_code (command : FlowCommand) : FlowCommand.ofCode command.code = .ok command := by
  cases command <;> rfl

theorem low_type {type : UInt8} (small : type ≤ 3) : type &&& 0x03 = type := by
  have octets : ∀ k : Fin 4, k.val.toUInt8 &&& 0x03 = k.val.toUInt8 := by decide
  have bound : type.toNat < 4 := Nat.lt_succ_of_le (UInt8.le_iff_toNat_le.mp small)
  simpa using octets ⟨type.toNat, bound⟩

theorem length_encode (m : FlowControl) : m.encode.length = 20 := rfl

theorem decode_encode_append {m : FlowControl} (small : m.type ≤ 3) (rest : Bytes) :
    decode (m.encode ++ rest) = .ok m := by
  have control : commandBit &&& commandBit ≠ 0 := by decide
  simp only [encode, bigEndian16, bigEndian32, List.cons_append, List.nil_append, decode,
    if_neg control, ofCode_code, Except.map, wordOfBigEndian_octets, low_type small]

end FlowControl

end ModemLink
