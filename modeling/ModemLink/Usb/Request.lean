import ModemLink.Bytes

/-!
# Control requests

Host-to-device requests on the default pipe: CDC line state, receive bundling and remote wakeup.
-/

namespace ModemLink

structure ControlRequest where
  type : UInt8
  request : UInt8
  value : UInt16
  index : UInt16
  data : Bytes := []
  deriving DecidableEq, Repr

namespace ControlRequest

/-- SET_CONTROL_LINE_STATE of the CDC class. -/
def setLineState : UInt8 := 0x22

def setBundling : UInt8 := 0x5A

def clearFeature : UInt8 := 0x01

def setFeature : UInt8 := 0x03

/-- Feature selector of remote wakeup. -/
def wakeupFeature : UInt16 := 1

/-- DTR is bit 0 of the value, RTS bit 1. -/
def lineState (interface : UInt8) (dtr rts : Bool) : ControlRequest where
  type := 0x21
  request := setLineState
  value := (if dtr then 1 else 0) ||| (if rts then 2 else 0)
  index := interface.toUInt16

def bundling (interface : UInt8) (enable : Bool) : ControlRequest where
  type := 0x41
  request := setBundling
  value := if enable then 1 else 0
  index := interface.toUInt16

/-- Lets the device signal remote wakeup, or forbids it. -/
def remoteWakeup (enable : Bool) : ControlRequest where
  type := 0x00
  request := if enable then setFeature else clearFeature
  value := wakeupFeature
  index := 0

/-- The DTR bit of a line-state request. -/
def dtr? (r : ControlRequest) : Option Bool :=
  if r.request = setLineState then some (r.value &&& 1 != 0) else none

end ControlRequest

end ModemLink
