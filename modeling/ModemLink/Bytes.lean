/-!
# Octet strings

Octets as they travel on the wire, words spelled least or most significant octet first, and
hexadecimal text.
-/

namespace ModemLink

abbrev Bytes := List UInt8

/-- The word whose low octet is `lo` and whose high octet is `hi`. -/
def wordOfOctets (lo hi : UInt8) : UInt16 := lo.toUInt16 ||| (hi.toUInt16 <<< 8)

/-- Least significant octet first. -/
def littleEndian16 (w : UInt16) : Bytes := [w.toUInt8, (w >>> 8).toUInt8]

/-- Most significant octet first. -/
def bigEndian16 (w : UInt16) : Bytes := [(w >>> 8).toUInt8, w.toUInt8]

/-- Most significant octet first. -/
def bigEndian32 (w : UInt32) : Bytes :=
  [(w >>> 24).toUInt8, (w >>> 16).toUInt8, (w >>> 8).toUInt8, w.toUInt8]

/-- The word spelled by four octets, the most significant first. -/
def wordOfBigEndian (a b c d : UInt8) : UInt32 :=
  (a.toUInt32 <<< 24) ||| (b.toUInt32 <<< 16) ||| (c.toUInt32 <<< 8) ||| d.toUInt32

namespace Text

def hexDigit (upper : Bool) (n : Nat) : Char :=
  if n < 10 then Char.ofNat (48 + n) else Char.ofNat ((if upper then 55 else 87) + n)

/-- Pads `s` with `fill` on the left up to `width` characters. -/
def padLeft (fill : Char) (width : Nat) (s : String) : String :=
  String.ofList (List.replicate (width - s.length) fill) ++ s

/-- Lower-case hexadecimal, at least `width` digits. -/
def hex (width n : Nat) : String :=
  padLeft '0' width (String.ofList (Nat.toDigits 16 n))

/-- An octet as `0x` and two digits. -/
def hexOctet (b : UInt8) : String := "0x" ++ hex 2 b.toNat

end Text

def Bytes.toHex (bytes : Bytes) : String :=
  String.ofList (bytes.flatMap fun b =>
    [Text.hexDigit false (b.toNat / 16), Text.hexDigit false (b.toNat % 16)])

def hexValue? (c : Char) : Option Nat :=
  if '0' ≤ c ∧ c ≤ '9' then some (c.toNat - 48)
  else if 'a' ≤ c ∧ c ≤ 'f' then some (c.toNat - 87)
  else if 'A' ≤ c ∧ c ≤ 'F' then some (c.toNat - 55)
  else none

def codePoint? (digits : List Char) : Option Char := do
  let values ← digits.mapM hexValue?
  let n := values.foldl (fun n d => 16 * n + d) 0
  if n.isValidChar then some (Char.ofNat n) else none

def Bytes.ofHex? : List Char → Option Bytes
  | [] => some []
  | a :: b :: rest => do return (16 * (← hexValue? a) + (← hexValue? b)).toUInt8 :: (← ofHex? rest)
  | [_] => none

end ModemLink
