import ModemLink.Codec.Error
import ModemLink.Usb.Error

/-!
# Driver errors

The causes for which the driver refuses or abandons an operation, and the flattened form in which
they reach a client.
-/

namespace ModemLink

inductive DriverError where
  | transport (cause : UsbError)
  | invalidDescriptor (kind reason : String)
  /-- A client is already attached, or the adapter is already registered. -/
  | deviceBusy
  /-- The device is removed, not started, or found broken. -/
  | deletePending
  | powerVeto (reason : String)
  | invalidState (state event : String)
  | powerPoolExhausted
  | insufficientResources (reason : String)
  | unrecognizedModel
  | codec (cause : CodecError)
  | store (reason : String)
  | service (loop reason : String)
  deriving DecidableEq, Repr

namespace DriverError

def message : DriverError → String
  | transport cause => "transport failure: " ++ cause.message
  | invalidDescriptor kind reason => s!"invalid {kind} descriptor: {reason}"
  | deviceBusy => "device busy"
  | deletePending => "delete pending"
  | powerVeto reason => "power request vetoed: " ++ reason
  | invalidState state event => s!"invalid state: cannot {event} while {state}"
  | powerPoolExhausted => "self-originated power request pool exhausted"
  | insufficientResources reason => "insufficient resources: " ++ reason
  | unrecognizedModel => "unrecognized device model"
  | codec cause => "protocol error: " ++ cause.message
  | store reason => "store error: " ++ reason
  | service loop reason => s!"service loop {loop} failed: {reason}"

def isFatal : DriverError → Bool
  | deletePending | invalidDescriptor .. | unrecognizedModel => true
  | transport cause => cause.isDisconnect
  | _ => false

/-- Refused by the power rules, not by the device. -/
def isVeto : DriverError → Bool
  | powerVeto _ => true
  | _ => false

end DriverError

inductive ClientError where
  | usb (cause : UsbError)
  | driver (text : String)
  | channel (text : String)
  | config (text : String)
  deriving DecidableEq, Repr

namespace ClientError

def message : ClientError → String
  | usb cause => "USB error: " ++ cause.message
  | driver text => "Driver error: " ++ text
  | channel text => "Channel error: " ++ text
  | config text => "Configuration error: " ++ text

def isDisconnect : ClientError → Bool
  | usb cause => cause.isDisconnect
  | _ => false

/-- Transfer errors stay structured, everything else becomes text. -/
def ofDriver : DriverError → ClientError
  | .transport cause => .usb cause
  | e => .driver e.message

end ClientError

end ModemLink
