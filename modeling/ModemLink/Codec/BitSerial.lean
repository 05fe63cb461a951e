import ModemLink.Codec.Fcs

/-!
# The check sequence bit by bit

The polynomial division that the table of `Fcs` abbreviates. A step through the table is eight
steps through single bits, so that both leave the same remainder.
-/

namespace ModemLink.Fcs

/-- The polynomial without its leading term, in the order of transmission. -/
def polynomial : UInt8 := 0xE0

/-- One bit through the register, the lowest first. -/
def shift (register : UInt8) : UInt8 :=
  if register &&& 1 = 1 then (register >>> 1) ^^^ polynomial else register >>> 1

def shiftOctet (register : UInt8) : UInt8 :=
  shift (shift (shift (shift (shift (shift (shift (shift register)))))))

/-- The remainder of `covered`, taken in bit by bit. -/
def serialRemainder (covered : Bytes) : UInt8 :=
  covered.foldl (fun register octet => shiftOctet (register ^^^ octet)) initial

theorem table_eq_shiftOctet (n : Fin 256) : table[n] = shiftOctet n.val.toUInt8 := by
  revert n
  decide +kernel

theorem advance_eq_shiftOctet (register octet : UInt8) :
    advance register octet = shiftOctet (register ^^^ octet) := by
  have := table_eq_shiftOctet ⟨(register ^^^ octet).toNat, (register ^^^ octet).toNat_lt⟩
  simpa [advance] using this

theorem remainder_eq_serialRemainder (covered : Bytes) :
    remainder covered = serialRemainder covered := by
  simp only [remainder, serialRemainder, funext fun r => funext (advance_eq_shiftOctet r)]

end ModemLink.Fcs
