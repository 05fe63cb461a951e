import ModemLink.Report.Basic
import ModemLink.Usb.Pipe
import ModemLink.Usb.Request

/-!
# Reports of descriptors, plans and configurations
-/

namespace ModemLink

def DescriptorKind.name : DescriptorKind → String
  | device => "Device"
  | configuration => "Configuration"
  | string => "String"

def EndpointType.name : EndpointType → String
  | control => "Control"
  | isochronous => "Isochronous"
  | bulk => "Bulk"
  | interrupt => "Interrupt"

def PipeRole.name : PipeRole → String
  | bulkIn => "BulkIn"
  | bulkOut => "BulkOut"
  | interrupt => "Interrupt"

instance : Reportable DescriptorFault := ⟨fun f => report f.error⟩

instance : Reportable DeviceDescriptor :=
  ⟨fun d => .fields [
    ("length", report d.length), ("type", report d.type), ("bcd_usb", report d.usbVersion),
    ("class", report d.deviceClass), ("subclass", report d.subclass),
    ("protocol", report d.protocol), ("ep0", report d.maxPacket0),
    ("vendor_id", report d.vendorId), ("product_id", report d.productId),
    ("bcd_device", report d.deviceVersion),
    ("indices",
      .list [report d.manufacturerIndex, report d.productIndex, report d.serialIndex]),
    ("num_configurations", report d.configurations)]⟩

instance : Reportable ConfigHeader :=
  ⟨fun h => .fields [
    ("length", report h.length), ("type", report h.type), ("total", report h.totalLength),
    ("interfaces", report h.interfaces), ("value", report h.value),
    ("attributes", report h.attributes), ("max_power", report h.maxPower),
    ("remote_wakeup", report h.remoteWakeup), ("valid", report h.isValid)]⟩

instance : Reportable Record :=
  ⟨fun
    | .interface d => .fields [("interface", .list [report d.number, report d.alternate,
        report d.endpoints, report d.interfaceClass, report d.subclass, report d.protocol])]
    | .endpoint d => .fields [("endpoint",
        .list [report d.address, report d.attributes, report d.maxPacket, report d.interval])]
    | .vendorFeature guid controlCaps dataCaps => .fields [("vendor", report guid),
        ("control_caps", report controlCaps), ("data_caps", report dataCaps)]
    | .other type data => .fields [("other", report type), ("data", report data)]⟩

instance : Reportable Selection := ⟨fun s => .list [report s.interface, report s.alternate]⟩

instance : Reportable InterfaceEntry :=
  ⟨fun e => .fields [("number", report e.number), ("alt", report e.alternate),
    ("class", report e.interfaceClass), ("subclass", report e.subclass),
    ("endpoints", .list (e.endpoints.map report))]⟩

instance : Reportable VendorFeatures :=
  ⟨fun v => .list [report v.enabled, report v.controlCaps, report v.dataCaps]⟩

instance : Reportable InterfacePlan :=
  ⟨fun p => .fields [("interfaces", report p.interfaces), ("vendor", report p.vendor),
    ("ecm", report p.ecm), ("selections", report p.selections)]⟩

instance : Reportable Pipe :=
  ⟨fun p => .list [report p.interface, report p.endpoint, report p.type.name, report p.maxPacket,
    report p.isIn]⟩

instance : Reportable PipeInfo :=
  ⟨fun p => .list [report p.role.name, report p.index, report p.endpoint, report p.maxPacket,
    report p.interface]⟩

instance : Reportable UsbConfiguration :=
  ⟨fun c => .fields [
    ("value", report c.value), ("remote_wakeup", report c.remoteWakeup),
    ("interfaces", report c.interfaces), ("pipes", report c.pipes),
    ("model", report c.model.name), ("vendor", report c.vendor), ("ecm", report c.ecm),
    ("control_interface", report c.controlInterface)]⟩

instance : Reportable ControlRequest :=
  ⟨fun r => .list [report r.type, report r.request, report r.value, report r.index, report r.data]⟩

end ModemLink
