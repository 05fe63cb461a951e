import ModemLink.Codec.Error

/-!
# Flow-control messages

Twenty octets on the control channel: a command bit, the multiplexer id and the body length, then
command, type, two reserved octets and three words. Type 0 is a request, which the peer expects to
be acknowledged.
-/

namespace ModemLink

inductive FlowCommand where
  | pause
  | resume
  deriving DecidableEq, Repr

namespace FlowCommand

def name : FlowCommand → String
  | pause => "Pause"
  | resume => "Resume"

def code : FlowCommand → UInt8
  | pause => 1
  | resume => 2

def ofCode (code : UInt8) : Except CodecError FlowCommand :=
  if code = 1 then .ok .pause
  else if code = 2 then .ok .resume
  else .error (.unknownCommand code)

end FlowCommand

structure FlowControl where
  muxId : UInt8
  command : FlowCommand
  transaction : UInt32
  type : UInt8
  sequence : UInt32
  qos : UInt32
  deriving DecidableEq, Repr

namespace FlowControl

def requestType : UInt8 := 0

def ackType : UInt8 := 1

/-- Marks a control packet in the first octet. -/
def commandBit : UInt8 := 0x80

def bodyLength : Nat := 16

def encodedLength : Nat := 4 + bodyLength

def isRequest (m : FlowControl) : Bool := m.type == requestType

def ack (m : FlowControl) : FlowControl := { m with type := ackType }

/-- Only the two low bits of the type travel. -/
def encode (m : FlowControl) : Bytes :=
  [commandBit, m.muxId] ++ bigEndian16 bodyLength.toUInt16 ++
    [m.command.code, m.type &&& 0x03] ++ bigEndian16 0 ++
    bigEndian32 m.transaction ++ bigEndian32 m.sequence ++ bigEndian32 m.qos

/-- Reads a message from the start of `bytes`; the announced body length is not looked at. -/
def decode (bytes : Bytes) : Except CodecError FlowControl :=
  match bytes with
  | first :: muxId :: _ :: _ :: command :: type :: _ :: _ ::
      t₀ :: t₁ :: t₂ :: t₃ :: s₀ :: s₁ :: s₂ :: s₃ :: q₀ :: q₁ :: q₂ :: q₃ :: _ =>
      if first &&& commandBit = 0 then .error .notControlPacket
      else (FlowCommand.ofCode command).map fun command =>
        { muxId, command, type := type &&& 0x03
          transaction := wordOfBigEndian t₀ t₁ t₂ t₃
          sequence := wordOfBigEndian s₀ s₁ s₂ s₃
          qos := wordOfBigEndian q₀ q₁ q₂ q₃ }
  | _ => .error (.bufferTooSmall encodedLength bytes.length)

end FlowControl

end ModemLink
