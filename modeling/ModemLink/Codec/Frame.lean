import ModemLink.Codec.Fcs

/-!
# Multiplexer frames

A control and a data channel share one bulk pipe. A payload travels as

    flag, address, control, one or two length octets, payload, check octet, flag

with the channel's DLCI in the upper six bits of the address. A length below 0x80 takes one octet
with the extension bit set, a longer one seven bits and then eight.
-/

namespace ModemLink

inductive Channel where
  | control
  | data
  deriving DecidableEq, Repr

structure Channels where
  control : UInt8 := 1
  data : UInt8 := 2
  deriving DecidableEq, Repr

def Channels.dlci (channels : Channels) : Channel → UInt8
  | .control => channels.control
  | .data => channels.data

inductive DropReason where
  /-- DLCI 0 belongs to the multiplexer itself. -/
  | controlChannel
  | dlciMismatch (expected found : UInt8)
  | truncated
  | fcsMismatch
  deriving DecidableEq, Repr

/-- What one inbound buffer turned out to be. -/
inductive Decoded where
  /-- The multiplexer is off and the whole buffer is payload. -/
  | passthrough (data : Bytes)
  | payload (dlci : UInt8) (data : Bytes)
  | notAFrame (length : Nat)
  | dropped (reason : DropReason)
  deriving DecidableEq, Repr

namespace Decoded

def data? : Decoded → Option Bytes
  | passthrough data => some data
  | payload _ data => some data
  | notAFrame _ => none
  | dropped _ => none

def effectiveLength : Decoded → Nat
  | passthrough data => data.length
  | payload _ data => data.length
  | notAFrame length => length
  | dropped _ => 0

end Decoded

namespace Frame

def flag : UInt8 := 0xF9

/-- The control octet of a header-checked information frame. -/
def uihControl : UInt8 := 0xEF

/-- The two length octets carry fifteen bits. -/
def maxPayload : Nat := 0x7FFF

/-- The address octet keeps six bits for the DLCI. -/
def maxDlci : UInt8 := 63

def addressOctet (dlci : UInt8) : UInt8 := (dlci <<< 2) ||| 1

def lengthField (n : Nat) : Bytes :=
  if n < 0x80 then [(n.toUInt8 <<< 1) ||| 1]
  else [(n % 0x80).toUInt8 <<< 1, (n / 0x80).toUInt8]

def header (dlci : UInt8) (n : Nat) : Bytes :=
  addressOctet dlci :: uihControl :: lengthField n

def encode (channels : Channels) (channel : Channel) (payload : Bytes) :
    Except CodecError Bytes :=
  let dlci := channels.dlci channel
  if dlci > maxDlci then .error (.invalidDlci dlci)
  else if payload.length > maxPayload then .error (.frameTooLarge payload.length maxPayload)
  else
    let head := header dlci payload.length
    (Fcs.compute .uih head).map fun fcs => flag :: head ++ payload ++ [fcs, flag]

/-- The check rule of a received control octet, its poll/final bit aside. -/
def kindOfControl (control : UInt8) : FrameKind :=
  if control &&& 0xEF = 0xEF then .uih
  else if control &&& 0xEF = 0x03 then .ui
  else .control

/-- Payload length announced by a header that starts at the address octet. -/
def payloadLength : Bytes → Nat
  | _ :: _ :: first :: rest =>
      if Fcs.lengthOctets first = 1 then (first >>> 1).toNat
      else (first >>> 1).toNat + 0x80 * (rest.headD 0).toNat
  | _ => 0

/-- The frame whose address octet opens `body`; what follows its check octet is ignored. -/
def decodeBody (expected : UInt8) (body : Bytes) : Decoded :=
  match body with
  | address :: control :: _ :: _ =>
      let found := address >>> 2
      if found = 0 then .dropped .controlChannel
      else if found ≠ expected then .dropped (.dlciMismatch expected found)
      else match Fcs.headerLength body with
        | .error _ => .dropped .truncated
        | .ok header =>
          let size := payloadLength body
          match body.drop (header + size) with
          | [] => .dropped .truncated
          | fcs :: _ =>
            let kind := kindOfControl control
            let checked := match kind with
              | .ui => body.take (header + size)
              | .uih | .control => body.take header
            if Fcs.verify kind checked fcs then .payload found ((body.drop header).take size)
            else .dropped .fcsMismatch
  | _ => .dropped .truncated

def decode (channels : Channels) (channel : Channel) (enabled : Bool) (buffer : Bytes) : Decoded :=
  if enabled then
    match buffer with
    | octet :: body =>
        if octet = flag then decodeBody (channels.dlci channel) body
        else .notAFrame buffer.length
    | [] => .notAFrame 0
  else .passthrough buffer

/-- Total length of the frame that opens `buffer`, both flags included; it may exceed the buffer.
`none` when no flag opens the buffer or the header is incomplete. -/
def frameLength? (buffer : Bytes) : Option Nat :=
  match buffer with
  | octet :: body =>
      if octet = flag then
        match Fcs.headerLength body with
        | .ok header => some (1 + header + payloadLength body + 2)
        | .error _ => none
      else none
  | [] => none

theorem frameLength?_pos {buffer : Bytes} {n : Nat} (h : frameLength? buffer = some n) : 0 < n := by
  unfold frameLength? at h
  split at h
  · split at h
    · split at h
      · cases h
        omega
      · cases h
    · cases h
  · cases h

theorem drop_frame_shorter {buffer : Bytes} {n : Nat} (h : frameLength? buffer = some n)
    (more : buffer.drop n ≠ []) : (buffer.drop n).length < buffer.length := by
  have := frameLength?_pos h
  have := List.length_pos_iff.mpr more
  rw [List.length_drop] at this ⊢
  omega

/-- Cuts a bundled transfer into frames. The last piece is what no frame ends inside of, and may
be any octets. -/
def split (buffer : Bytes) : List Bytes :=
  match h : frameLength? buffer with
  | none => [buffer]
  | some n =>
      if more : buffer.drop n = [] then [buffer]
      else
        have := drop_frame_shorter h more
        buffer.take n :: split (buffer.drop n)
termination_by buffer.length
decreasing_by exact this

end Frame

end ModemLink
