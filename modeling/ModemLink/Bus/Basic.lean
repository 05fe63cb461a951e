import ModemLink.Bus.Error
import ModemLink.Host
import ModemLink.Usb.DescriptorBuilder
import ModemLink.Usb.StringDescriptor

/-!
# A simulated bus

Devices that come and go, each with its descriptors, interface claims, kernel drivers and inbound
queues. Any call can be made to fail by queueing an error for it. `log` lists the calls made on
devices.
-/

namespace ModemLink

inductive BusCallName where
  | listDevices
  | registerHotplug
  | handleEvents
  | deviceDescriptor
  | configDescriptor
  | portNumbers
  | «open»
  | getConfiguration
  | setConfiguration
  | kernelDriverActive
  | detach
  | attach
  | claim
  | unclaim
  | altSetting
  | clearHalt
  | controlOut
  | controlIn
  | bulkIn
  | interruptIn
  | bulkOut
  deriving DecidableEq, Repr

inductive BusCall where
  | «open» (address : UInt8)
  | close
  | getConfiguration
  | setConfiguration (value : UInt8)
  | kernelDriverActive (interface : UInt8)
  | detach (interface : UInt8)
  | attach (interface : UInt8)
  | claim (interface : UInt8)
  | unclaim (interface : UInt8)
  | altSetting (interface alternate : UInt8)
  | clearHalt (endpoint : UInt8)
  | controlOut (request : ControlRequest) (timeout : Nat)
  | controlIn (type request : UInt8) (value index : UInt16) (length timeout : Nat)
  | bulkIn (endpoint : UInt8) (length timeout : Nat)
  | interruptIn (endpoint : UInt8) (length timeout : Nat)
  | bulkOut (endpoint : UInt8) (data : Bytes) (timeout : Nat)
  | hotplug (vendor product : UInt16)
  deriving DecidableEq, Repr

/-- The errors waiting for each call, `none` for a call that is to succeed. -/
abbrev ErrorQueue := List (BusCallName × Option BusError)

namespace ErrorQueue

def add (queue : ErrorQueue) (call : BusCallName) (items : List (Option BusError)) : ErrorQueue :=
  queue ++ items.map fun item => (call, item)

def take (queue : ErrorQueue) (call : BusCallName) : Option BusError × ErrorQueue :=
  match queue.find? fun item => item.1 == call with
  | some item => (item.2, queue.eraseP fun item => item.1 == call)
  | none => (none, queue)

end ErrorQueue

structure BusDevice where
  bus : UInt8 := 250
  address : UInt8 := 7
  ports : List UInt8 := []
  /-- `none` for a speed that is not known. -/
  speed : Option Speed := some .high
  descriptor : Bytes := DeviceDescriptor.build 0x05c6 0x9025
  configs : List Bytes := [ConfigPlan.modem.build]
  strings : List (UInt8 × Bytes) :=
    [(1, StringDescriptor.build "Acme"), (2, StringDescriptor.build "LTE Modem"),
      (3, StringDescriptor.build "SN0001")]
  /-- Value of the active configuration. -/
  active : UInt8 := 1
  /-- Interfaces with a kernel driver. -/
  kernelDrivers : List UInt8 := []
  errors : ErrorQueue := []
  bulk : List (Except BusError Bytes) := []
  interrupts : List (Except BusError Bytes) := []
  /-- The inbound queues look empty until DTR is set. -/
  gated : Bool := false
  claims : List UInt8 := []
  present : Bool := true

namespace BusDevice

/-- The fixed part of the device descriptor, padded with zeros. -/
def header (device : BusDevice) : Bytes :=
  (device.descriptor ++ List.replicate DeviceDescriptor.size 0).take DeviceDescriptor.size

def vendorId (device : BusDevice) : UInt16 :=
  wordOfOctets (device.header.getD 8 0) (device.header.getD 9 0)

def productId (device : BusDevice) : UInt16 :=
  wordOfOctets (device.header.getD 10 0) (device.header.getD 11 0)

def configurations (device : BusDevice) : UInt8 := device.header.getD 17 0

/-- A device of unknown speed is taken for full speed. -/
def knownSpeed (device : BusDevice) : Speed := device.speed.getD .full

/-- What a control read of `value` finds. -/
def control (device : BusDevice) (value : UInt16) : Option Bytes :=
  let index := value.toUInt8
  let kind := (value >>> 8).toUInt8
  if kind = DescriptorKind.device.code then some device.descriptor
  else if kind = DescriptorKind.configuration.code then device.configs[index.toNat]?
  else if kind = DescriptorKind.string.code then device.strings.lookup index
  else none

end BusDevice

inductive PlugEvent where
  | arrived (device : Nat)
  | left (device : Nat)
  deriving DecidableEq, Repr

structure Bus where
  /-- In the order of their appearance; those that left stay in the list. -/
  devices : List BusDevice := []
  hasHotplug : Bool := true
  /-- Why the stack cannot be used at all. -/
  initError : Option BusError := none
  errors : ErrorQueue := []
  /-- Plug events not yet delivered, the oldest first. -/
  events : List PlugEvent := []
  log : Array BusCall := #[]

abbrev BusAct (α : Type) := ExceptT BusError (StateM Bus) α

namespace Bus

def device (bus : Bus) (n : Nat) : BusDevice := bus.devices.getD n {}

def modifyDevice (bus : Bus) (n : Nat) (f : BusDevice → BusDevice) : Bus :=
  { bus with devices := bus.devices.modify n f }

def plug (bus : Bus) (device : BusDevice) : Bus :=
  { bus with devices := bus.devices ++ [device]
             events := bus.events ++ [.arrived bus.devices.length] }

def unplug (bus : Bus) (n : Nat) : Bus :=
  { bus.modifyDevice n (fun d => { d with present := false }) with
    events := bus.events ++ [.left n] }

def onDevice (n : Nat) (f : BusDevice → BusDevice) : BusAct Unit :=
  modify fun bus => bus.modifyDevice n f

def mayFail (call : BusCallName) : BusAct Unit := do
  let (error, errors) := (← get).errors.take call
  modify fun bus => { bus with errors }
  match error with
  | some e => throw e
  | none => return

/-- The next error queued for a call on device `n`. -/
def deviceMayFail (n : Nat) (call : BusCallName) : BusAct Unit := do
  let (error, errors) := ((← get).device n).errors.take call
  onDevice n fun d => { d with errors }
  match error with
  | some e => throw e
  | none => return

def record (call : BusCall) : BusAct Unit := modify fun bus => { bus with log := bus.log.push call }

/-- A logged call, which a device that left does not answer. -/
def call (n : Nat) (name : BusCallName) (entry : BusCall) : BusAct Unit := do
  record entry
  if !((← get).device n).present then throw .noDevice
  deviceMayFail n name

def list : BusAct (List Nat) := do
  mayFail .listDevices
  let bus ← get
  return (List.range bus.devices.length).filter fun n => (bus.device n).present

/-- The device descriptor is known even of a device that left. -/
def deviceDescriptor (n : Nat) : BusAct BusDevice := do
  deviceMayFail n .deviceDescriptor
  return (← get).device n

def configDescriptor (n : Nat) (index : UInt8) : BusAct Bytes := do
  deviceMayFail n .configDescriptor
  match ((← get).device n).configs[index.toNat]? with
  | some config => if ConfigHeader.size ≤ config.length then return config else throw .notFound
  | none => throw .notFound

def handleEvents : BusAct (Option PlugEvent) := do
  mayFail .handleEvents
  let bus ← get
  set { bus with events := bus.events.tail }
  return bus.events.head?

end Bus

end ModemLink
