import ModemLink.Error

/-!
# Reports

The driver's values as plain trees of fields, lists, numbers and text, for diagnostics. A failure
is reported by its cause and its message.
-/

namespace ModemLink

inductive Report where
  | null
  | flag (value : Bool)
  | number (value : Int)
  | text (value : String)
  | list (items : List Report)
  | fields (entries : List (String × Report))

class Reportable (α : Type) where
  report : α → Report

export Reportable (report)

instance : Reportable Report := ⟨id⟩

instance : Reportable Unit := ⟨fun _ => .null⟩

instance : Reportable Bool := ⟨.flag⟩

instance : Reportable Nat := ⟨fun n => .number n⟩

instance : Reportable Int := ⟨.number⟩

instance : Reportable UInt8 := ⟨fun n => .number n.toNat⟩

instance : Reportable UInt16 := ⟨fun n => .number n.toNat⟩

instance : Reportable UInt32 := ⟨fun n => .number n.toNat⟩

instance : Reportable String := ⟨.text⟩

instance {α : Type} [Reportable α] : Reportable (Option α) := ⟨fun a => a.elim .null report⟩

instance {α : Type} [Reportable α] : Reportable (List α) := ⟨fun l => .list (l.map report)⟩

instance (priority := high) : Reportable Bytes := ⟨fun bytes => .text bytes.toHex⟩

instance {α β : Type} [Reportable α] [Reportable β] : Reportable (Except α β) :=
  ⟨fun
    | .ok b => report b
    | .error a => report a⟩

namespace CodecError

def name : CodecError → String
  | bufferTooSmall .. => "BufferTooSmall"
  | frameTooLarge .. => "FrameTooLarge"
  | invalidDlci _ => "InvalidDlci"
  | unknownCommand _ => "UnknownCommand"
  | notControlPacket => "NotControlPacket"

instance : Reportable CodecError :=
  ⟨fun e => .fields [("error", report e.name), ("message", report e.message)]⟩

end CodecError

namespace UsbError

/-- The failures that carry no text of their own. -/
def plain : List UsbError :=
  [timeout, pipe, noDevice, notFound, busy, overflow, io, invalidParam, access]

def name : UsbError → String
  | timeout => "Timeout"
  | pipe => "Pipe"
  | noDevice => "NoDevice"
  | notFound => "NotFound"
  | busy => "Busy"
  | overflow => "Overflow"
  | io => "Io"
  | invalidParam => "InvalidParam"
  | access => "Access"
  | other _ => "Other"

/-- The status alone. -/
def status : UsbError → Report
  | other text => .fields [("Other", .fields [("message", report text)])]
  | e => report e.name

instance : Reportable UsbError :=
  ⟨fun e => .fields [("error", report "Usb"), ("usb", e.status), ("message", report e.message)]⟩

end UsbError

namespace DriverError

def name : DriverError → String
  | transport _ => "Transport"
  | invalidDescriptor .. => "InvalidDescriptor"
  | deviceBusy => "DeviceBusy"
  | deletePending => "DeletePending"
  | powerVeto _ => "PowerVeto"
  | invalidState .. => "InvalidState"
  | powerPoolExhausted => "PowerPoolExhausted"
  | insufficientResources _ => "InsufficientResources"
  | unrecognizedModel => "UnrecognizedModel"
  | codec _ => "Protocol"
  | store _ => "Store"
  | service .. => "Service"

instance : Reportable DriverError :=
  ⟨fun e => .fields [("error", report e.name), ("message", report e.message),
    ("fatal", report e.isFatal), ("veto", report e.isVeto)]⟩

end DriverError

namespace ClientError

def name : ClientError → String
  | usb _ => "Usb"
  | driver _ => "Driver"
  | channel _ => "Channel"
  | config _ => "Config"

instance : Reportable ClientError :=
  ⟨fun e => .fields [("error", report e.name), ("message", report e.message),
    ("disconnect", report e.isDisconnect)]⟩

end ClientError

end ModemLink
