import ModemLink.Bytes

/-!
# Codec errors

Why a frame or a flow-control message could not be written or read.
-/

namespace ModemLink

inductive CodecError where
  | bufferTooSmall (needed available : Nat)
  | frameTooLarge (size max : Nat)
  | invalidDlci (dlci : UInt8)
  | unknownCommand (code : UInt8)
  | notControlPacket
  deriving DecidableEq, Repr

namespace CodecError

def message : CodecError → String
  | bufferTooSmall needed available => s!"Buffer too small: needed {needed}, got {available}"
  | frameTooLarge size max => s!"Frame too large: {size} bytes (max: {max})"
  | invalidDlci dlci => s!"Invalid DLCI {dlci} (must be 0..=63)"
  | unknownCommand code => s!"Unknown QMAP command {Text.hexOctet code}"
  | notControlPacket => "Not a QMAP control packet"

/-- The cause and its operands, as diagnostics show it. -/
def diagnostic : CodecError → String
  | bufferTooSmall needed available =>
      s!"BufferTooSmall \x7b needed: {needed}, available: {available} \x7d"
  | frameTooLarge size max => s!"FrameTooLarge \x7b size: {size}, max: {max} \x7d"
  | invalidDlci dlci => s!"InvalidDlci({dlci})"
  | unknownCommand code => s!"UnknownCommand({code})"
  | notControlPacket => "NotControlPacket"

end CodecError

end ModemLink
