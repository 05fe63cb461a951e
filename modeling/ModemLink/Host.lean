import ModemLink.Codec.FlowControl
import ModemLink.Device
import ModemLink.Store
import ModemLink.Usb.Request

/-!
# Host

What a session asks of the machine it runs on: blocking USB calls on one device, and starting and
stopping the threads of its service loops. `η` is the state of that machine; every call may fail.
-/

namespace ModemLink

inductive LoopName where
  | read
  | write
  | dispatch
  | interrupt
  deriving DecidableEq, Repr

def LoopName.name : LoopName → String
  | read => "read"
  | write => "write"
  | dispatch => "dispatch"
  | interrupt => "interrupt"

/-- Ordinal that a loop is stopped with and acknowledges on exit. -/
structure StopTag where
  ordinal : UInt16
  deriving DecidableEq, Repr

namespace StopTag

/-- A loop dropped without being stopped. -/
def dropped : StopTag := ⟨0⟩

def text (tag : StopTag) : String := s!"#{tag.ordinal}"

end StopTag

class Host (η : Type) where
  /-- At most `length` octets of a descriptor. -/
  getDescriptor (kind : DescriptorKind) (index : UInt8) (language : UInt16) (length : Nat) :
    η → Except UsbError Bytes × η
  selectConfiguration (value : UInt8) (interfaces : List Selection) :
    η → Except UsbError (List Pipe) × η
  releaseInterfaces : η → η
  bulkIn (endpoint : UInt8) (length timeout : Nat) : η → Except UsbError Bytes × η
  /-- How many octets were sent. -/
  bulkOut (endpoint : UInt8) (data : Bytes) (timeout : Nat) : η → Except UsbError Nat × η
  interruptIn (endpoint : UInt8) (length timeout : Nat) : η → Except UsbError Bytes × η
  resetPipe (endpoint : UInt8) : η → Except UsbError Unit × η
  controlOut (request : ControlRequest) : η → Except UsbError Unit × η
  /-- Lets the data interface suspend, or keeps it awake. -/
  setIdle (idle : Bool) : η → Except UsbError Unit × η
  speed : η → Speed
  startLoop (loop : LoopName) : η → Except DriverError Unit × η
  stopLoop (loop : LoopName) (tag : StopTag) (wait : Bool) : η → Except DriverError Unit × η

inductive Notification where
  | linkDown
  | deregistration
  | flowControl (command : FlowCommand)
  | powerStateChanged (level : DevicePower)
  | received (payload : Bytes)
  | deviceStarted (identity : Identity)
  | deviceRemoved
  deriving DecidableEq, Repr

/-- One call out of a session, with its outcome where a later decision rests on it. -/
inductive Event where
  | getDescriptor (kind : DescriptorKind) (index : UInt8) (language : UInt16) (length : Nat)
  | selectConfiguration (value : UInt8) (interfaces : List Selection) (ok : Bool)
  | releaseInterfaces
  | bulkIn (endpoint : UInt8) (length timeout : Nat)
  | bulkOut (endpoint : UInt8) (data : Bytes) (timeout : Nat) (sent : Except UsbError Nat)
  | interruptIn (endpoint : UInt8) (length timeout : Nat)
  | resetPipe (endpoint : UInt8) (result : Except UsbError Unit)
  | controlOut (request : ControlRequest) (result : Except UsbError Unit)
  | setIdle (idle : Bool)
  | notify (notification : Notification)
  | startLoop (loop : LoopName) (ok : Bool)
  | stopLoop (loop : LoopName) (tag : StopTag) (wait : Bool) (ok : Bool)
  | kickLoop (loop : LoopName)
  | storeGet (key : StoreKey)
  | storeSet (key : StoreKey) (value : StoreValue)
  deriving Repr

end ModemLink
