import Mathlib.Data.Nat.Bitwise
import ModemLink.Codec.Frame

/-!
# Frame headers

A header is an address, a control octet and a length field of one or two octets. `Announces` says
which fields announce which payload length. Reading a header and spelling a length agree with it:
`exists_header` takes any readable header apart, `announces_lengthField` covers every length that
can be sent.
-/

namespace ModemLink.Frame

/-- One octet with the extension bit, or seven bits without it and then eight. -/
inductive Announces : Bytes → Nat → Prop
  | short {first : UInt8} (extension : first &&& 1 = 1) : Announces [first] (first >>> 1).toNat
  | long {first second : UInt8} (extension : first &&& 1 = 0) :
      Announces [first, second] ((first >>> 1).toNat ||| (second.toNat <<< 7))

/-! ## Octets -/

theorem extension_cases (octet : UInt8) : octet &&& 1 = 1 ∨ octet &&& 1 = 0 := by
  have value : (octet &&& 1).toNat = octet.toNat % 2 := by
    rw [UInt8.toNat_and]
    exact Nat.and_one_is_mod _
  rcases Nat.mod_two_eq_zero_or_one octet.toNat with even | odd
  · exact .inr (UInt8.toNat_inj.mp (value.trans even))
  · exact .inl (UInt8.toNat_inj.mp (value.trans odd))

theorem low_bits_lt (octet : UInt8) : (octet >>> 1).toNat < 0x80 := by
  have := octet.toNat_lt
  rw [UInt8.toNat_shiftRight]
  simp only [UInt8.reduceToNat, Nat.reduceMod, Nat.shiftRight_eq_div_pow]
  omega

theorem low_or_high (first second : UInt8) :
    (first >>> 1).toNat ||| (second.toNat <<< 7) = (first >>> 1).toNat + 0x80 * second.toNat := by
  rw [Nat.or_comm, Nat.shiftLeft_eq, Nat.mul_comm,
    ← Nat.two_pow_add_eq_or_of_lt (i := 7) (low_bits_lt first)]
  omega

theorem dlci_addressOctet {dlci : UInt8} (fits : dlci ≤ maxDlci) :
    addressOctet dlci >>> 2 = dlci := by
  have octets : ∀ k : Fin 64, addressOctet k.val.toUInt8 >>> 2 = k.val.toUInt8 := by decide +kernel
  have bound : dlci.toNat < 64 := Nat.lt_succ_of_le (UInt8.le_iff_toNat_le.mp fits)
  simpa using octets ⟨dlci.toNat, bound⟩

/-! ## Length fields -/

namespace Announces

variable {field : Bytes} {n : Nat}

theorem length (announced : Announces field n) : field.length = 1 ∨ field.length = 2 := by
  cases announced with
  | short => exact .inl rfl
  | long => exact .inr rfl

theorem append_eq_cons (announced : Announces field n) (tail : Bytes) :
    ∃ first rest, field ++ tail = first :: rest := by
  cases announced with
  | short => exact ⟨_, _, rfl⟩
  | long => exact ⟨_, _, rfl⟩

end Announces

theorem short_octet (k : Fin 0x80) :
    ((k.val.toUInt8 <<< 1) ||| 1) &&& 1 = 1 ∧
      (((k.val.toUInt8 <<< 1) ||| 1) >>> 1).toNat = k.val := by
  revert k
  decide +kernel

theorem long_octet (k : Fin 0x80) :
    (k.val.toUInt8 <<< 1) &&& 1 = 0 ∧ ((k.val.toUInt8 <<< 1) >>> 1).toNat = k.val := by
  revert k
  decide +kernel

theorem announces_lengthField {n : Nat} (fits : n ≤ maxPayload) :
    Announces (lengthField n) n := by
  unfold lengthField
  split
  · rename_i small
    obtain ⟨extension, value⟩ := short_octet ⟨n, small⟩
    simpa only [value] using Announces.short extension
  · obtain ⟨extension, value⟩ := long_octet ⟨n % 0x80, Nat.mod_lt _ (by decide)⟩
    have high : (n / 0x80).toUInt8.toNat = n / 0x80 := by
      unfold maxPayload at fits
      rw [Nat.toUInt8, UInt8.toNat_ofNat']
      omega
    have sum : n % 0x80 + 0x80 * (n / 0x80) = n := Nat.mod_add_div n 0x80
    have announced := @Announces.long _ (n / 0x80).toUInt8 extension
    rwa [low_or_high, value, high, sum] at announced

/-! ## Reading a header -/

variable {address control : UInt8} {field : Bytes} {n : Nat}

theorem lengthOctets_extended {first : UInt8} (extension : first &&& 1 = 1) :
    Fcs.lengthOctets first = 1 :=
  if_pos extension

theorem lengthOctets_open {first : UInt8} (extension : first &&& 1 = 0) :
    Fcs.lengthOctets first = 2 := by
  simp [Fcs.lengthOctets, extension]

theorem headerLength_header (announced : Announces field n) (tail : Bytes) :
    Fcs.headerLength (address :: control :: (field ++ tail)) = .ok (2 + field.length) := by
  cases announced with
  | short extension => simp [Fcs.headerLength, lengthOctets_extended extension]
  | long extension => simp [Fcs.headerLength, lengthOctets_open extension]

theorem payloadLength_header (announced : Announces field n) (tail : Bytes) :
    payloadLength (address :: control :: (field ++ tail)) = n := by
  cases announced with
  | short extension => simp [payloadLength, lengthOctets_extended extension]
  | @long first second extension =>
      rw [low_or_high]
      simp [payloadLength, lengthOctets_open extension]

theorem header_of_field (announced : Announces field n) (tail : Bytes) {header : Nat}
    (read : Fcs.headerLength (address :: control :: (field ++ tail)) = .ok header) :
    header = 2 + field.length ∧
      Announces field (payloadLength (address :: control :: (field ++ tail))) := by
  rw [headerLength_header announced] at read
  cases read
  exact ⟨rfl, by rwa [payloadLength_header announced]⟩

theorem exists_header {body : Bytes} {header : Nat} (read : Fcs.headerLength body = .ok header) :
    ∃ address control field tail, body = address :: control :: (field ++ tail) ∧
      header = 2 + field.length ∧ Announces field (payloadLength body) := by
  match body, read with
  | address :: control :: first :: rest, read =>
      rcases extension_cases first with extension | extension
      · exact ⟨address, control, [first], rest, rfl,
          header_of_field (.short extension) rest read⟩
      · cases rest with
        | nil => simp [Fcs.headerLength, lengthOctets_open extension] at read
        | cons second rest =>
            exact ⟨address, control, [first, second], rest, rfl,
              header_of_field (.long extension) rest read⟩

theorem headerLength_take (announced : Announces field n) (tail : Bytes) {m : Nat}
    (short : m < 2 + field.length) :
    ∃ e, Fcs.headerLength ((address :: control :: (field ++ tail)).take m) = .error e := by
  match m with
  | 0 | 1 | 2 => exact ⟨_, rfl⟩
  | m + 3 =>
      cases announced with
      | short => simp only [List.length_singleton] at short; omega
      | long extension =>
          obtain rfl : m = 0 := by simp at short; omega
          exact ⟨_, by simp [Fcs.headerLength, lengthOctets_open extension]; rfl⟩

end ModemLink.Frame
