import ModemLink.Bus.Basic

/-!
# Calls on an open device

A claim is refused while a kernel driver holds the interface, and belongs to the device. Transfers
go in the direction of their endpoint, and a control transfer moves fewer than 65536 octets.
-/

namespace ModemLink.Bus

def openDevice (n : Nat) : BusAct Unit := do
  call n .open (.open ((← get).device n).address)

def getConfiguration (n : Nat) : BusAct UInt8 := do
  call n .getConfiguration .getConfiguration
  return ((← get).device n).active

def setConfiguration (n : Nat) (value : UInt8) : BusAct Unit := do
  call n .setConfiguration (.setConfiguration value)
  onDevice n fun d => { d with active := value }

def kernelDriverActive (n : Nat) (interface : UInt8) : BusAct Bool := do
  call n .kernelDriverActive (.kernelDriverActive interface)
  return ((← get).device n).kernelDrivers.contains interface

def detach (n : Nat) (interface : UInt8) : BusAct Unit := do
  call n .detach (.detach interface)
  onDevice n fun d => { d with kernelDrivers := d.kernelDrivers.filter (· != interface) }

/-- Puts the kernel driver back, whether or not there was one. -/
def attach (n : Nat) (interface : UInt8) : BusAct Unit := do
  call n .attach (.attach interface)
  onDevice n fun d => { d with kernelDrivers := interface :: d.kernelDrivers }

def claim (n : Nat) (interface : UInt8) : BusAct Unit := do
  call n .claim (.claim interface)
  if ((← get).device n).kernelDrivers.contains interface then throw .busy
  onDevice n fun d => { d with claims := interface :: d.claims }

def unclaim (n : Nat) (interface : UInt8) : BusAct Unit := do
  call n .unclaim (.unclaim interface)
  if !((← get).device n).claims.contains interface then throw .notFound
  onDevice n fun d => { d with claims := d.claims.filter (· != interface) }

def altSetting (n : Nat) (interface alternate : UInt8) : BusAct Unit := do
  call n .altSetting (.altSetting interface alternate)
  if !((← get).device n).claims.contains interface then throw .notFound

def clearHalt (n : Nat) (endpoint : UInt8) : BusAct Unit :=
  call n .clearHalt (.clearHalt endpoint)

/-- The length field of a control transfer has 16 bits. -/
def controlLength (length : Nat) : Nat := length % 0x10000

/-- Setting DTR opens the gate in front of the inbound queues. -/
def controlOut (n : Nat) (request : ControlRequest) (timeout : Nat) : BusAct Unit := do
  if request.type &&& 0x80 != 0 then throw .invalidParam
  let data := request.data.take (controlLength request.data.length)
  call n .controlOut (.controlOut { request with data } timeout)
  if request.dtr? == some true then onDevice n fun d => { d with gated := false }

def controlIn (n : Nat) (type request : UInt8) (value index : UInt16) (length timeout : Nat) :
    BusAct Bytes := do
  if type &&& 0x80 == 0 then throw .invalidParam
  let length := controlLength length
  call n .controlIn (.controlIn type request value index length timeout)
  match ((← get).device n).control value with
  | some bytes => return bytes.take length
  | none => throw .pipe

/-- The next element of an inbound queue; one that is too long is lost. -/
def inbound (queue : List (Except BusError Bytes)) (length : Nat) : BusAct Bytes := do
  match queue with
  | [] => throw .timeout
  | .error e :: _ => throw e
  | .ok bytes :: _ => if length < bytes.length then throw .overflow else return bytes

def bulkIn (n : Nat) (endpoint : UInt8) (length timeout : Nat) : BusAct Bytes := do
  if !isInEndpoint endpoint then throw .invalidParam
  call n .bulkIn (.bulkIn endpoint length timeout)
  let d := (← get).device n
  if d.gated then throw .timeout
  onDevice n fun d => { d with bulk := d.bulk.tail }
  inbound d.bulk length

def interruptIn (n : Nat) (endpoint : UInt8) (length timeout : Nat) : BusAct Bytes := do
  if !isInEndpoint endpoint then throw .invalidParam
  call n .interruptIn (.interruptIn endpoint length timeout)
  let d := (← get).device n
  if d.gated then throw .timeout
  onDevice n fun d => { d with interrupts := d.interrupts.tail }
  inbound d.interrupts length

def bulkOut (n : Nat) (endpoint : UInt8) (data : Bytes) (timeout : Nat) : BusAct Nat := do
  if isInEndpoint endpoint then throw .invalidParam
  call n .bulkOut (.bulkOut endpoint data timeout)
  return data.length

def portNumbers (n : Nat) : BusAct (List UInt8) := do
  deviceMayFail n .portNumbers
  return ((← get).device n).ports

end ModemLink.Bus
