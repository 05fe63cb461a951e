import ModemLink.Report.Session
import ModemLink.Scripted

/-!
# Reports of the scripted modem
-/

namespace ModemLink

def ScriptedCall.all : List ScriptedCall :=
  [getDescriptor, selectConfiguration, bulkOut, resetPipe, controlOut, setIdle]

def ScriptedCall.name : ScriptedCall → String
  | getDescriptor => "get"
  | selectConfiguration => "select"
  | bulkOut => "bulk_out"
  | resetPipe => "reset"
  | controlOut => "control"
  | setIdle => "idle"

/-- What was done to the modem. -/
instance : Reportable ScriptedModem :=
  ⟨fun m => .fields [
    ("sent", report m.sent.toList), ("control", report m.controls.toList),
    ("dtr", report (m.controls.toList.filterMap (·.dtr?))), ("resets", .list (m.resets.toList.map report)),
    ("idle", report m.idles.toList), ("releases", report m.releases)]⟩

end ModemLink
