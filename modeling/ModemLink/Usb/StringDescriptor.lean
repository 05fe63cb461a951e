import ModemLink.Text.Blank
import ModemLink.Text.Utf16
import ModemLink.Usb.Descriptor

/-!
# String descriptors

A length octet, the string type and the text in UTF-16, low octet first.
-/

namespace ModemLink.StringDescriptor

/-- Whole code units; a last lone octet is dropped. -/
def units : Bytes → List UInt16
  | lo :: hi :: rest => wordOfOctets lo hi :: units rest
  | _ => []

/-- The octets that the length octet leaves to the text. -/
def body (bytes : Bytes) : Bytes := (bytes.take (bytes.headD 0).toNat).drop 2

/-- The text without trailing NULs and outer blanks; `none` for no text at all. -/
def parse? (bytes : Bytes) : Option String :=
  match bytes with
  | length :: type :: _ =>
      if type = DescriptorKind.string.code ∧ 2 ≤ length.toNat then
        let text := Utf16.decodeChars (units (body bytes))
        match Text.trimBlank (Text.trimEnd (· == '\x00') text) with
        | [] => none
        | kept => some (String.ofList kept)
      else none
  | _ => none

/-- The descriptor of `text`; its length octet wraps for texts it cannot count. -/
def build (text : String) : Bytes :=
  let octets := (Utf16.encode text).flatMap littleEndian16
  (octets.length + 2).toUInt8 :: DescriptorKind.string.code :: octets

end ModemLink.StringDescriptor
