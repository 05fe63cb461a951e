import ModemLink.Error
import ModemLink.Usb.Descriptor

/-!
# Interface selection

Which interfaces of a configuration are activated, and in which alternate setting. Alternate
setting 0 takes a new slot and another setting replaces the last one. When the first interface is
a CDC ECM control interface, other settings are skipped, except that a data interface is taken in
its non-zero settings only.
-/

namespace ModemLink

/-- One interface in one alternate setting. -/
structure Selection where
  interface : UInt8
  alternate : UInt8
  deriving DecidableEq, Repr

/-- A selected interface and the endpoint addresses listed under it. -/
structure InterfaceEntry where
  number : UInt8
  alternate : UInt8
  interfaceClass : UInt8
  subclass : UInt8
  endpoints : List UInt8 := []
  deriving DecidableEq, Repr

/-- Contents of the vendor feature record; not enabled unless its identifier is the known one. -/
structure VendorFeatures where
  enabled : Bool := false
  controlCaps : UInt8 := 0
  dataCaps : UInt8 := 0
  deriving DecidableEq, Repr

def VendorFeatures.guid : Bytes :=
  [0x3E, 0x1F, 0x5C, 0x84, 0x7A, 0x29, 0x4B, 0x6D, 0x90, 0x8E, 0x51, 0xC3, 0x0A, 0xD7, 0x62, 0xF4]

structure InterfacePlan where
  interfaces : List InterfaceEntry := []
  vendor : VendorFeatures := {}
  /-- The first interface is a CDC ECM control interface. -/
  ecm : Bool := false
  deriving DecidableEq, Repr

namespace InterfaceDescriptor

def cdcClass : UInt8 := 0x02

def ecmSubclass : UInt8 := 0x06

def cdcDataClass : UInt8 := 0x0A

def isEcmControl (d : InterfaceDescriptor) : Bool :=
  d.interfaceClass == cdcClass && d.subclass == ecmSubclass && d.alternate == 0 && d.endpoints == 1

def entry (d : InterfaceDescriptor) : InterfaceEntry where
  number := d.number
  alternate := d.alternate
  interfaceClass := d.interfaceClass
  subclass := d.subclass

end InterfaceDescriptor

namespace InterfacePlan

def selections (plan : InterfacePlan) : List Selection :=
  plan.interfaces.map fun entry => ⟨entry.number, entry.alternate⟩

structure Draft where
  /-- Latest slot first, and in each slot the latest endpoint first. -/
  slots : List InterfaceEntry := []
  vendor : VendorFeatures := {}
  ecm : Bool := false
  /-- An interface record has been seen. -/
  begun : Bool := false
  /-- Endpoints belong to the latest slot rather than to a skipped interface. -/
  collecting : Bool := false
  deriving DecidableEq, Repr

namespace Draft

/-- The interface takes a slot of its own. -/
def takesSlot (draft : Draft) (d : InterfaceDescriptor) : Bool :=
  if draft.ecm then
    if d.interfaceClass == InterfaceDescriptor.cdcDataClass then d.alternate != 0
    else d.alternate == 0
  else d.alternate == 0 || draft.slots.isEmpty

/-- The first interface decides how the others are taken. -/
def begin (draft : Draft) (d : InterfaceDescriptor) : Draft :=
  if draft.begun then draft else { draft with begun := true, ecm := d.isEcmControl }

/-- An interface in a slot of its own, in the place of the last one, or in none. -/
def place (draft : Draft) (d : InterfaceDescriptor) : Except DriverError Draft :=
  if draft.takesSlot d then
    if maxInterfaces ≤ draft.slots.length then
      .error (.insufficientResources s!"more than {maxInterfaces} interfaces")
    else .ok { draft with slots := d.entry :: draft.slots, collecting := true }
  else if draft.ecm then .ok { draft with collecting := false }
  else .ok { draft with slots := d.entry :: draft.slots.tail, collecting := true }

def addInterface (draft : Draft) (d : InterfaceDescriptor) : Except DriverError Draft :=
  (draft.begin d).place d

def addEndpoint (draft : Draft) (d : EndpointDescriptor) : Draft :=
  match draft.collecting, draft.slots with
  | true, slot :: rest =>
      { draft with slots := { slot with endpoints := d.address :: slot.endpoints } :: rest }
  | _, _ => draft

def add (draft : Draft) : Record → Except DriverError Draft
  | .vendorFeature guid controlCaps dataCaps =>
      if guid = VendorFeatures.guid then
        .ok { draft with vendor := { enabled := true, controlCaps, dataCaps } }
      else .ok draft
  | .interface d => draft.addInterface d
  | .endpoint d => .ok (draft.addEndpoint d)
  | .other _ _ => .ok draft

def finish (draft : Draft) : InterfacePlan where
  interfaces := draft.slots.reverse.map fun slot => { slot with endpoints := slot.endpoints.reverse }
  vendor := draft.vendor
  ecm := draft.ecm

end Draft

def ofRecords (records : List Record) : Except DriverError InterfacePlan := do
  let draft ← records.foldlM Draft.add {}
  if draft.slots.isEmpty then throw .unrecognizedModel
  return draft.finish

def select (config : Bytes) : Except DriverError InterfacePlan :=
  ofRecords (Record.ofConfiguration config)

end InterfacePlan

end ModemLink
