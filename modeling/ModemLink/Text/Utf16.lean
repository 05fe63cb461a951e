/-!
# UTF-16

The code units of a text, and the text of code units in which an unpaired surrogate reads as the
replacement character.
-/

namespace ModemLink.Utf16

/-- One unit below the supplementary planes, a high and a low surrogate above. -/
def encodeChar (c : Char) : List UInt16 :=
  let n := c.toNat
  if n < 0x10000 then [n.toUInt16]
  else [(0xD800 + (n - 0x10000) / 0x400).toUInt16, (0xDC00 + (n - 0x10000) % 0x400).toUInt16]

def encode (text : String) : List UInt16 := text.toList.flatMap encodeChar

def isHigh (u : UInt16) : Bool := 0xD800 ≤ u && u < 0xDC00

def isLow (u : UInt16) : Bool := 0xDC00 ≤ u && u < 0xE000

def replacement : Char := '\uFFFD'

def combine (high low : UInt16) : Char :=
  Char.ofNat (0x10000 + (high.toNat - 0xD800) * 0x400 + (low.toNat - 0xDC00))

def decodeChars : List UInt16 → List Char
  | [] => []
  | [u] => [if isHigh u || isLow u then replacement else Char.ofNat u.toNat]
  | u :: v :: rest =>
      if isHigh u && isLow v then combine u v :: decodeChars rest
      else (if isHigh u || isLow u then replacement else Char.ofNat u.toNat) ::
        decodeChars (v :: rest)

end ModemLink.Utf16
