import ModemLink.Bridge
import ModemLink.Report.Codec
import ModemLink.Report.Usb

/-!
# Reports of sessions

The identity, statistics and status of a device, and the calls that a session made.
-/

namespace ModemLink

def TrackedPipe.name : TrackedPipe → String
  | control => "Control"
  | interrupt => "Interrupt"
  | input => "Input"
  | output => "Output"

def PowerSignal.name : PowerSignal → String
  | wakeup => "Wakeup"
  | wakeupReset => "WakeupReset"
  | standby => "Standby"

def PowerDisposition.name : PowerDisposition → String
  | notOurs => "NotOurs"
  | selfOriginated => "SelfOriginated"
  | forward => "Forward"

def LoopStep.name : LoopStep → String
  | busy => "Busy"
  | idle => "Idle"

instance : Reportable Lifecycle :=
  ⟨fun l => .fields [("state", report l.name), ("present", report l.isPresent),
    ("started", report l.isStarted), ("in_service", report l.inService),
    ("removed", report l.isRemoved)]⟩

instance : Reportable SizeHistogram :=
  ⟨fun h => .list [report h.under10k, report h.from10kTo20k, report h.from20kTo30k,
    report h.over30k, report h.total]⟩

instance : Reportable TransferStats :=
  ⟨fun s => .fields [("rx", report s.rx), ("tx", report s.tx), ("rx_bytes", report s.rxBytes),
    ("tx_bytes", report s.txBytes), ("dropped", report s.droppedFrames)]⟩

instance : Reportable DeviceStrings :=
  ⟨fun s => .list [report s.manufacturer, report s.product, report s.serial]⟩

instance : Reportable Identity :=
  ⟨fun i => .list [report i.vendorId, report i.productId, report i.portName, report i.model.name,
    report i.speed.name, report i.usbVersion, report i.strings.manufacturer,
    report i.strings.product, report i.strings.serial]⟩

instance : Reportable StatusReport :=
  ⟨fun s => .fields [
    ("lifecycle", report s.lifecycle.name), ("in_service", report s.lifecycle.inService),
    ("vendor_id", report s.vendorId), ("product_id", report s.productId),
    ("model", report s.model.name), ("device_power", report s.devicePower.name),
    ("system_power", report s.systemPower.name), ("rx_bytes", report s.rxBytes),
    ("tx_bytes", report s.txBytes)]⟩

instance : Reportable RequestPool :=
  ⟨fun p => .list [report p.capacity, report p.free.length, report p.pending.length]⟩

instance : Reportable StoreValue :=
  ⟨fun
    | .number value => report value
    | .text value => report value⟩

instance : Reportable Reply :=
  ⟨fun
    | .outcome result => report result
    | .status status => report status⟩

instance : Reportable AdapterKey :=
  ⟨fun k => .list [report k.bus, report k.address, report k.interface]⟩

instance : Reportable ServiceLoop :=
  ⟨fun l => .list [report l.live, report (l.closedTag.map StopTag.ordinal)]⟩

instance : Reportable Notification :=
  ⟨fun
    | .linkDown => .list [report "link_down"]
    | .deregistration => .list [report "deregistration"]
    | .flowControl command => .list [report "flow_control", report command.name]
    | .powerStateChanged level => .list [report "power", report level.name]
    | .received payload => .list [report "received", report payload]
    | .deviceStarted identity => .list [report "started", report identity]
    | .deviceRemoved => .list [report "removed"]⟩

def Notification.record : Notification → Report
  | .linkDown => .list [report "LinkDown"]
  | .deregistration => .list [report "Deregistration"]
  | .flowControl command => .list [report "FlowControl", report command.name]
  | .powerStateChanged level => .list [report "PowerStateChanged", report level.name]
  | .received payload => .list [report "Received", report payload]
  | .deviceStarted identity =>
      .list [report "DeviceStarted", report identity.vendorId, report identity.productId]
  | .deviceRemoved => .list [report "DeviceRemoved"]

def PowerRecord.flags (power : PowerRecord) : List String :=
  [("prepare", power.prepareToPowerDown), ("suspend_ok", power.suspendAllowed),
    ("suspended", power.powerSuspended), ("idle", power.idleSuspended),
    ("low_power", power.lowPowerMode), ("stopped", power.stopped),
    ("dereg", power.deregistrationSent), ("wait_wake", power.waitWakeArmed)].filterMap
      fun (name, value) => if value then some name else none

def PowerRecord.setFlag (power : PowerRecord) (value : Bool) : String → PowerRecord
  | "prepare" => { power with prepareToPowerDown := value }
  | "suspend_ok" => { power with suspendAllowed := value }
  | "suspended" => { power with powerSuspended := value }
  | "idle" => { power with idleSuspended := value }
  | "low_power" => { power with lowPowerMode := value }
  | "stopped" => { power with stopped := value }
  | "dereg" => { power with deregistrationSent := value }
  | "wait_wake" => { power with waitWakeArmed := value }
  | _ => power

def TrackedPipe.all : List TrackedPipe := [control, interrupt, input, output]

/-- Statistics are reported once there are any. -/
instance : Reportable Device :=
  ⟨fun d => .fields (
    [("lc", report d.lifecycle.name), ("dev", report d.power.device.name),
      ("sys", report d.power.system.name), ("timer", report d.power.idleDeadline.isSome),
      ("flags", report d.power.flags), ("pool", report d.pool), ("busy", report d.ioBusy),
      ("infl", report d.inflightResponses), ("paused", report d.txPaused),
      ("q", .list [report d.queues.read.length, report d.queues.writeLength]),
      ("cfg", report (d.configuration.map (·.value))), ("broken", report d.isBroken),
      ("pipes", report (TrackedPipe.all.map fun pipe => (d.pipes.get pipe).map UsbError.status))] ++
    if d.stats = {} then [] else [("stats", report d.stats)])⟩

instance : Reportable DriverEvent :=
  ⟨fun
    | .deviceStarted vendorId productId model =>
        .list [report "DeviceStarted", report vendorId, report productId, report model.name]
    | .deviceRemoved => .list [report "DeviceRemoved"]
    | .linkDown => .list [report "LinkDown"]
    | .deregistered => .list [report "Deregistered"]
    | .flowControl command => .list [report "FlowControl", report command.name]
    | .powerStateChanged level => .list [report "PowerStateChanged", report level.name]
    | .received payload => .list [report "Received", report payload]⟩

instance : Reportable Command :=
  ⟨fun
    | .open => .list [report "Open"]
    | .close => .list [report "Close"]
    | .send payload channel =>
        .list [report "Send", report payload, report (decide (channel = .data))]
    | .setSystemPower level => .list [report "SetSystemPower", report level.name]
    | .setDevicePower level => .list [report "SetDevicePower", report level.name]
    | .queryStatus => .list [report "QueryStatus"]
    | .shutdown => .list [report "Shutdown"]⟩

instance : Reportable Event :=
  ⟨fun
    | .getDescriptor kind index language length =>
        .list [report "get", report kind.code, report index, report language, report length]
    | .selectConfiguration value interfaces _ =>
        .list [report "select", report value, report interfaces]
    | .releaseInterfaces => .list [report "release"]
    | .bulkIn endpoint length timeout =>
        .list [report "bulk_in", report endpoint, report length, report timeout]
    | .bulkOut endpoint data timeout _ =>
        .list [report "bulk_out", report endpoint, report data, report timeout]
    | .interruptIn endpoint length timeout =>
        .list [report "interrupt_in", report endpoint, report length, report timeout]
    | .resetPipe endpoint _ => .list [report "reset", report endpoint]
    | .controlOut request _ => .list [report "control", report request]
    | .setIdle idle => .list [report "idle", report idle]
    | .notify notification => report notification
    | .startLoop loop _ => .list [report "loop_start", report loop.name]
    | .stopLoop loop tag wait _ =>
        .list [report "loop_stop", report loop.name, report tag.ordinal, report wait]
    | .kickLoop loop => .list [report "loop_kick", report loop.name]
    | .storeGet key => .list [report "store_get", report key.name]
    | .storeSet key value => .list [report "store_set", report key.name, report value]⟩

end ModemLink
