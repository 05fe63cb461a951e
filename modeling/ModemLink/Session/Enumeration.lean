import ModemLink.Session.Basic
import ModemLink.Usb.StringDescriptor

/-!
# Enumeration

Reading the descriptors of a device and selecting one of its configurations. Nothing is committed
to the device record here, and a selection that turns out unusable is released again.
-/

namespace ModemLink.Session

variable {η α : Type} [Host η]

def language : UInt16 := 0x0409

def refuse (fault : DescriptorFault) : Act η α := throw fault.error

def orTransport (result : Except UsbError α) : Act η α :=
  match result with
  | .ok a => pure a
  | .error e => throw (.transport e)

def orRefuse (result : Except DescriptorFault α) : Act η α :=
  match result with
  | .ok a => pure a
  | .error fault => refuse fault

def orThrow (result : Except DriverError α) : Act η α :=
  match result with
  | .ok a => pure a
  | .error e => throw e

/-- The device descriptor, checked for the negotiated speed. -/
def readDeviceDescriptor : Act η DeviceDescriptor := do
  let bytes ← orTransport (← Act.getDescriptor .device 0 0 DeviceDescriptor.size)
  let descriptor ← orRefuse (DeviceDescriptor.parse bytes)
  if descriptor.isValid (Host.speed (← get).host).isSuper then return descriptor
  refuse descriptor.invalid

/-- A string descriptor; index 0 names none, and one that cannot be read counts as none. -/
def readString (index : UInt8) : Act η (Option String) := do
  if index = 0 then return none
  match ← Act.getDescriptor .string index language 255 with
  | .ok bytes => return StringDescriptor.parse? bytes
  | .error _ => return none

def readStrings (descriptor : DeviceDescriptor) : Act η DeviceStrings := do
  let manufacturer ← readString descriptor.manufacturerIndex
  let product ← readString descriptor.productIndex
  let serial ← readString descriptor.serialIndex
  return { manufacturer, product, serial }

/-- Reads the header first and then as many octets as it announces. -/
def readConfigDescriptor (index : UInt8) : Act η Bytes := do
  let bytes ← orTransport (← Act.getDescriptor .configuration index 0 ConfigHeader.size)
  let header ← orRefuse (ConfigHeader.parse bytes)
  if !header.isValid then refuse header.invalid
  let total := header.totalLength.toNat
  let bytes ← orTransport (← Act.getDescriptor .configuration index 0 total)
  if bytes.length < total then
    refuse ⟨.configuration, s!"short read: {bytes.length} of {total} bytes"⟩
  return bytes

/-- Selects configuration `index`; what was selected is released when its pipes are unusable. -/
def configure (index : UInt8) (mux : MuxConfig) : Act η UsbConfiguration := do
  let raw ← readConfigDescriptor index
  let header ← orRefuse (ConfigHeader.parse raw)
  let plan ← orThrow (InterfacePlan.select raw)
  let selected ← Act.selectConfiguration header.value plan.selections
  let built : Except DriverError UsbConfiguration :=
    match selected with
    | .ok pipes => UsbConfiguration.build header plan pipes mux
    | .error e => .error (.transport e)
  match built with
  | .ok config => return config
  | .error e =>
      Act.releaseInterfaces
      throw e

/-- The first usable configuration among `indices`; otherwise the last failure. -/
def configureFirst (mux : MuxConfig) (indices : List UInt8) (failure : DriverError) :
    Act η UsbConfiguration :=
  match indices with
  | [] => throw failure
  | index :: rest =>
      tryCatch (configure index mux) fun failure => configureFirst mux rest failure

/-- Tries every advertised configuration, and the first one even if none is advertised. -/
def configureAny (count : UInt8) : Act η UsbConfiguration := do
  let indices := (List.range (Nat.max count.toNat 1)).map Nat.toUInt8
  configureFirst (← Act.device).mux indices .unrecognizedModel

end ModemLink.Session
