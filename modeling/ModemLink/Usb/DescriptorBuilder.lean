import ModemLink.Usb.Descriptor

/-!
# Descriptors of a described device

The octets of device and configuration descriptors put together from their parts, with the total
length and the number of interfaces filled in.
-/

namespace ModemLink

inductive RecordPlan where
  | interface (number alternate interfaceClass subclass endpoints : UInt8)
  | endpoint (address attributes : UInt8) (maxPacket : UInt16)
  | vendorFeature (guid : Bytes) (controlCaps dataCaps : UInt8)
  | raw (octets : Bytes)
  deriving DecidableEq, Repr

namespace RecordPlan

def octets : RecordPlan → Bytes
  | interface number alternate interfaceClass subclass endpoints =>
      [9, Record.interfaceType, number, alternate, endpoints, interfaceClass, subclass, 0, 0]
  | endpoint address attributes maxPacket =>
      [7, Record.endpointType, address, attributes] ++ littleEndian16 maxPacket ++ [0]
  | vendorFeature guid controlCaps dataCaps =>
      [21, Record.classSpecificType, Record.vendorFeatureSubtype] ++ guid ++ [controlCaps, dataCaps]
  | raw octets => octets

def interfaceNumber? : RecordPlan → Option UInt8
  | interface number _ _ _ _ => some number
  | _ => none

end RecordPlan

structure ConfigPlan where
  /-- Bus powered, with remote wakeup. -/
  attributes : UInt8 := 0xA0
  records : List RecordPlan := []
  deriving DecidableEq, Repr

namespace ConfigPlan

def build (plan : ConfigPlan) : Bytes :=
  let records := plan.records.flatMap RecordPlan.octets
  let numbers := (plan.records.filterMap RecordPlan.interfaceNumber?).eraseDups
  [9, DescriptorKind.configuration.code] ++ littleEndian16 (9 + records.length).toUInt16 ++
    [numbers.length.toUInt8, 1, 0, plan.attributes, 0xFA] ++ records

/-- One vendor interface with an interrupt, a bulk-in and a bulk-out endpoint. -/
def modem : ConfigPlan where
  records := [.interface 0 0 0xFF 0xFF 3, .endpoint 0x81 3 8, .endpoint 0x82 2 512,
    .endpoint 0x02 2 512]

end ConfigPlan

/-- A full-featured USB 2.0 device with the given identifiers. -/
def DeviceDescriptor.build (vendor product : UInt16) : Bytes :=
  [18, DescriptorKind.device.code, 0x00, 0x02, 0, 0, 0, 0x40] ++ littleEndian16 vendor ++
    littleEndian16 product ++ [0x00, 0x01, 1, 2, 3, 1]

end ModemLink
