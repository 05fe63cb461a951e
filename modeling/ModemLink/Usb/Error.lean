/-!
# Transfer errors

The status a transport reports for a descriptor read, a reset or a transfer. Two of them say that
the device has left the bus.
-/

namespace ModemLink

inductive UsbError where
  | timeout
  /-- The endpoint stalled. -/
  | pipe
  | noDevice
  | notFound
  | busy
  | overflow
  | io
  | invalidParam
  | access
  | other (text : String)
  deriving DecidableEq, Repr

namespace UsbError

def message : UsbError → String
  | timeout => "transfer timed out"
  | pipe => "endpoint stalled"
  | noDevice => "device not connected"
  | notFound => "no such device"
  | busy => "device busy"
  | overflow => "buffer overflow"
  | io => "I/O error"
  | invalidParam => "invalid parameter"
  | access => "access denied"
  | other text => text

/-- The device has left the bus. -/
def isDisconnect : UsbError → Bool
  | noDevice | notFound => true
  | _ => false

end UsbError

end ModemLink
