import ModemLink.Report.Bus
import ModemLink.Report.Codec
import ModemLink.Report.Scripted

/-!
# Values known by name

Enumerations whose values can be read back from the names that reports give them.
-/

namespace ModemLink

/-- A type with finitely many named values; `all` holds them in order. -/
class Named (α : Type) where
  all : List α
  name : α → String

def Named.ofName? {α : Type} [Named α] (text : String) : Option α :=
  (Named.all : List α).find? fun value => Named.name value == text

instance : Named FrameKind := ⟨[.control, .uih, .ui], FrameKind.name⟩

instance : Named FlowCommand := ⟨[.pause, .resume], FlowCommand.name⟩

instance : Named DevicePower := ⟨[.unspecified, .d0, .d1, .d2, .d3], DevicePower.name⟩

instance : Named SystemPower :=
  ⟨[.unspecified, .working, .sleeping1, .sleeping2, .sleeping3, .hibernate, .shutdown],
    SystemPower.name⟩

instance : Named Speed := ⟨[.low, .full, .high, .super, .superPlus], Speed.name⟩

instance : Named Lifecycle :=
  ⟨[.absent, .present, .started false, .started true, .surpriseRemoved, .removed], Lifecycle.name⟩

instance : Named LifecycleEvent :=
  ⟨[.arrive, .start, .stop, .opened, .closed, .surpriseRemove, .remove], LifecycleEvent.name⟩

instance : Named StoreKey :=
  ⟨[.deviceStamp, .serialNumber, .protocolId, .ssrCounter, .parentDeviceName, .cid],
    StoreKey.name⟩

instance : Named LoopName := ⟨[.read, .write, .dispatch, .interrupt], LoopName.name⟩

instance : Named EndpointType :=
  ⟨[.control, .isochronous, .bulk, .interrupt], EndpointType.name⟩

instance : Named DescriptorKind := ⟨[.device, .configuration, .string], DescriptorKind.name⟩

instance : Named Model := ⟨[.net, .netLike, .none], Model.name⟩

instance : Named TrackedPipe := ⟨TrackedPipe.all, TrackedPipe.name⟩

instance : Named ScriptedCall := ⟨ScriptedCall.all, ScriptedCall.name⟩

instance : Named BusCallName := ⟨BusCallName.all, BusCallName.name⟩

instance : Named BusError := ⟨BusError.all, BusError.name⟩

end ModemLink
