import ModemLink.Usb.Error

/-!
# Bus errors

What the USB stack below a transport answers with. The driver keeps the statuses it decides on and
takes the others as text.
-/

namespace ModemLink

inductive BusError where
  | io
  | invalidParam
  | access
  | noDevice
  | notFound
  | busy
  | timeout
  | overflow
  | pipe
  | interrupted
  | noMemory
  | notSupported
  | badDescriptor
  | other
  deriving DecidableEq, Repr

namespace BusError

def all : List BusError :=
  [io, invalidParam, access, noDevice, notFound, busy, timeout, overflow, pipe, interrupted,
    noMemory, notSupported, badDescriptor, other]

def name : BusError → String
  | io => "Io"
  | invalidParam => "InvalidParam"
  | access => "Access"
  | noDevice => "NoDevice"
  | notFound => "NotFound"
  | busy => "Busy"
  | timeout => "Timeout"
  | overflow => "Overflow"
  | pipe => "Pipe"
  | interrupted => "Interrupted"
  | noMemory => "NoMem"
  | notSupported => "NotSupported"
  | badDescriptor => "BadDescriptor"
  | other => "Other"

def message : BusError → String
  | io => "Input/Output Error"
  | invalidParam => "Invalid parameter"
  | access => "Access denied (insufficient permissions)"
  | noDevice => "No such device (it may have been disconnected)"
  | notFound => "Entity not found"
  | busy => "Resource busy"
  | timeout => "Operation timed out"
  | overflow => "Overflow"
  | pipe => "Pipe error"
  | interrupted => "System call interrupted (perhaps due to signal)"
  | noMemory => "Insufficient memory"
  | notSupported => "Operation not supported or unimplemented on this platform"
  | badDescriptor => "Malformed descriptor"
  | other => "Other error"

end BusError

def UsbError.ofBus : BusError → UsbError
  | .timeout => .timeout
  | .pipe => .pipe
  | .noDevice => .noDevice
  | .notFound => .notFound
  | .busy => .busy
  | .overflow => .overflow
  | .io => .io
  | .invalidParam => .invalidParam
  | .access => .access
  | e => .other e.message

end ModemLink
