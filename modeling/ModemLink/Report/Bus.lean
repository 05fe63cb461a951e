import ModemLink.Bus.Link
import ModemLink.Report.Usb

/-!
# Reports of the simulated bus
-/

namespace ModemLink

namespace BusCallName

def all : List BusCallName :=
  [listDevices, registerHotplug, handleEvents, deviceDescriptor, configDescriptor, portNumbers,
    «open», getConfiguration, setConfiguration, kernelDriverActive, detach, attach, claim, unclaim,
    altSetting, clearHalt, controlOut, controlIn, bulkIn, interruptIn, bulkOut]

def name : BusCallName → String
  | listDevices => "list"
  | registerHotplug => "hotplug_register"
  | handleEvents => "events"
  | deviceDescriptor => "device_descriptor"
  | configDescriptor => "config_descriptor"
  | portNumbers => "port_numbers"
  | «open» => "open"
  | getConfiguration => "get_configuration"
  | setConfiguration => "set_configuration"
  | kernelDriverActive => "kernel_driver_active"
  | detach => "detach"
  | attach => "attach"
  | claim => "claim"
  | unclaim => "unclaim"
  | altSetting => "alt_setting"
  | clearHalt => "clear_halt"
  | controlOut => "control_out"
  | controlIn => "control_in"
  | bulkIn => "bulk_in"
  | interruptIn => "interrupt_in"
  | bulkOut => "bulk_out"

end BusCallName

/-- Frames sent to a device. -/
def BusCall.isSend : BusCall → Bool
  | bulkOut .. => true
  | _ => false

/-- Reads from an inbound endpoint. -/
def BusCall.isRead : BusCall → Bool
  | bulkIn .. | interruptIn .. => true
  | _ => false

instance : Reportable BusCall :=
  ⟨fun
    | .open address => .list [report "open", report address]
    | .close => .list [report "close"]
    | .getConfiguration => .list [report "get_configuration"]
    | .setConfiguration value => .list [report "set_configuration", report value]
    | .kernelDriverActive interface =>
        .list [report "kernel_driver_active", report interface]
    | .detach interface => .list [report "detach", report interface]
    | .attach interface => .list [report "attach", report interface]
    | .claim interface => .list [report "claim", report interface]
    | .unclaim interface => .list [report "unclaim", report interface]
    | .altSetting interface alternate =>
        .list [report "alt_setting", report interface, report alternate]
    | .clearHalt endpoint => .list [report "clear_halt", report endpoint]
    | .controlOut r timeout =>
        .list [report "control_out", report r.type, report r.request, report r.value,
          report r.index, report r.data, report timeout]
    | .controlIn type request value index length timeout =>
        .list [report "control_in", report type, report request, report value, report index,
          report length, report timeout]
    | .bulkIn endpoint length timeout =>
        .list [report "bulk_in", report endpoint, report length, report timeout]
    | .interruptIn endpoint length timeout =>
        .list [report "interrupt_in", report endpoint, report length, report timeout]
    | .bulkOut endpoint data timeout =>
        .list [report "bulk_out", report endpoint, report data, report timeout]
    | .hotplug vendor product => .list [report "hotplug", report vendor, report product]⟩

instance : Reportable DeviceSummary :=
  ⟨fun s => .list [report s.bus, report s.address, report s.vendorId, report s.productId,
    report s.speed.name]⟩

end ModemLink
