import ModemLink.Error

/-!
# Descriptors

Device and configuration descriptors as a device sends them. Their octets are not trusted: every
length is checked before it is used, and the walk over the records of a configuration ends at the
first record that would run past the buffer.
-/

namespace ModemLink

inductive DescriptorKind where
  | device
  | configuration
  | string
  deriving DecidableEq, Repr

def DescriptorKind.code : DescriptorKind → UInt8
  | device => 1
  | configuration => 2
  | string => 3

structure DescriptorFault where
  kind : DescriptorKind
  reason : String
  deriving DecidableEq, Repr

def DescriptorFault.error (fault : DescriptorFault) : DriverError :=
  .invalidDescriptor (match fault.kind with
    | .device => "device"
    | .configuration => "configuration"
    | .string => "string") fault.reason

structure DeviceDescriptor where
  length : UInt8
  type : UInt8
  usbVersion : UInt16
  deviceClass : UInt8
  subclass : UInt8
  protocol : UInt8
  /-- Packet size of the default pipe; SuperSpeed gives its binary logarithm. -/
  maxPacket0 : UInt8
  vendorId : UInt16
  productId : UInt16
  deviceVersion : UInt16
  manufacturerIndex : UInt8
  productIndex : UInt8
  serialIndex : UInt8
  configurations : UInt8
  deriving DecidableEq, Repr

namespace DeviceDescriptor

def size : Nat := 18

def parse (bytes : Bytes) : Except DescriptorFault DeviceDescriptor :=
  match bytes with
  | length :: type :: u₀ :: u₁ :: deviceClass :: subclass :: protocol :: maxPacket0 ::
      v₀ :: v₁ :: p₀ :: p₁ :: d₀ :: d₁ ::
      manufacturerIndex :: productIndex :: serialIndex :: configurations :: _ =>
      .ok { length, type, usbVersion := wordOfOctets u₀ u₁, deviceClass, subclass, protocol
            maxPacket0, vendorId := wordOfOctets v₀ v₁, productId := wordOfOctets p₀ p₁
            deviceVersion := wordOfOctets d₀ d₁, manufacturerIndex, productIndex, serialIndex
            configurations }
  | _ => .error ⟨.device, s!"{bytes.length} bytes, need {size}"⟩

/-- A device descriptor with a default pipe size that the bus speed allows. -/
def isValid (superSpeed : Bool) (d : DeviceDescriptor) : Bool :=
  d.length != 0 && d.type == DescriptorKind.device.code &&
    (if superSpeed then d.maxPacket0 == 9 else [8, 16, 32, 64].contains d.maxPacket0)

def invalid (d : DeviceDescriptor) : DescriptorFault :=
  ⟨.device, s!"length {d.length} type {Text.hexOctet d.type} ep0 {d.maxPacket0}"⟩

end DeviceDescriptor

/-- The fixed part that opens a configuration descriptor. -/
structure ConfigHeader where
  length : UInt8
  type : UInt8
  totalLength : UInt16
  interfaces : UInt8
  value : UInt8
  attributes : UInt8
  maxPower : UInt8
  deriving DecidableEq, Repr

def maxInterfaces : Nat := 8

namespace ConfigHeader

def size : Nat := 9

def parse (bytes : Bytes) : Except DescriptorFault ConfigHeader :=
  match bytes with
  | length :: type :: t₀ :: t₁ :: interfaces :: value :: _ :: attributes :: maxPower :: _ =>
      .ok { length, type, totalLength := wordOfOctets t₀ t₁, interfaces, value, attributes
            maxPower }
  | _ => .error ⟨.configuration, s!"{bytes.length} bytes, need {size}"⟩

def remoteWakeup (h : ConfigHeader) : Bool := h.attributes &&& 0x20 != 0

def isValid (h : ConfigHeader) : Bool :=
  h.length != 0 && h.length.toNat ≤ h.totalLength.toNat && size ≤ h.totalLength.toNat &&
    h.interfaces.toNat < maxInterfaces && h.type == DescriptorKind.configuration.code

def invalid (h : ConfigHeader) : DescriptorFault :=
  ⟨.configuration, s!"length {h.length} total {h.totalLength} interfaces {h.interfaces} type " ++
    Text.hexOctet h.type⟩

end ConfigHeader

structure InterfaceDescriptor where
  number : UInt8
  alternate : UInt8
  endpoints : UInt8
  interfaceClass : UInt8
  subclass : UInt8
  protocol : UInt8
  deriving DecidableEq, Repr

structure EndpointDescriptor where
  address : UInt8
  attributes : UInt8
  maxPacket : UInt16
  interval : UInt8
  deriving DecidableEq, Repr

inductive Record where
  | interface (descriptor : InterfaceDescriptor)
  | endpoint (descriptor : EndpointDescriptor)
  /-- A class-specific record that carries a vendor's feature identifier. -/
  | vendorFeature (guid : Bytes) (controlCaps dataCaps : UInt8)
  | other (type : UInt8) (data : Bytes)
  deriving DecidableEq, Repr

namespace Record

def interfaceType : UInt8 := 0x04

def endpointType : UInt8 := 0x05

def classSpecificType : UInt8 := 0x24

def vendorFeatureSubtype : UInt8 := 0xFE

/-- The record whose octets, length octet included, are `data`. -/
def ofOctets (data : Bytes) : Record :=
  match data with
  | _ :: type :: number :: alternate :: endpoints :: interfaceClass :: subclass :: protocol ::
      _ :: _ =>
      if type = interfaceType then
        .interface { number, alternate, endpoints, interfaceClass, subclass, protocol }
      else short type data
  | _ => short (data.getD 1 0) data
where
  /-- Records that need fewer octets than an interface, or more. -/
  short (type : UInt8) (data : Bytes) : Record :=
    match data with
    | _ :: _ :: address :: attributes :: p₀ :: p₁ :: interval :: _ =>
        if type = endpointType then
          .endpoint { address, attributes, maxPacket := wordOfOctets p₀ p₁, interval }
        else feature type data
    | _ => .other type data
  feature (type : UInt8) (data : Bytes) : Record :=
    match data.drop 19 with
    | controlCaps :: dataCaps :: _ =>
        if type = classSpecificType ∧ data.getD 2 0 = vendorFeatureSubtype then
          .vendorFeature ((data.drop 3).take 16) controlCaps dataCaps
        else .other type data
    | _ => .other type data

theorem drop_shorter {octets : Bytes} {length : Nat}
    (whole : 2 ≤ length ∧ (octets.take length).length = length) :
    (octets.drop length).length < octets.length := by
  have taken := whole.2
  rw [List.length_take] at taken
  rw [List.length_drop]
  omega

/-- The records laid end to end in `octets`, as long as each is there as a whole. -/
def walk (octets : Bytes) : List Record :=
  let length := (octets.headD 0).toNat
  let record := octets.take length
  if whole : 2 ≤ length ∧ record.length = length then
    have := drop_shorter whole
    ofOctets record :: walk (octets.drop length)
  else []
termination_by octets.length
decreasing_by exact this

def ofConfiguration (config : Bytes) : List Record := walk (config.drop ConfigHeader.size)

end Record

end ModemLink
