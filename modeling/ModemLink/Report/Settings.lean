import ModemLink.Report.Basic
import ModemLink.Settings.Reader

/-!
# Reports of settings
-/

namespace ModemLink

instance : Reportable UInt64 := ⟨fun n => .number n.toNat⟩

instance : Reportable Settings :=
  ⟨fun s => .fields [
    ("driver", .fields [("log_level", report s.driver.logLevel),
      ("port_name", report s.driver.portName)]),
    ("device", .fields [("vendor_id", report s.device.vendorId),
      ("product_id", report s.device.productId), ("interface_number", report s.device.interface),
      ("physical_interface_number", report s.device.physicalInterface)]),
    ("mux", .fields [("enabled", report s.mux.enabled), ("control_dlci", report s.mux.controlDlci),
      ("data_dlci", report s.mux.dataDlci)]),
    ("power", .fields [("selective_suspend", report s.power.selectiveSuspend),
      ("idle_timeout_secs", report s.power.idleTimeout),
      ("power_request_pool", report s.power.requestPool)]),
    ("store", .fields [("path", report s.store.path)])]⟩

def Settings.effect (settings : Settings) (home : String) : Report :=
  let options := settings.sessionOptions
  let mux := options.mux
  .fields [
    ("config", report settings), ("vendor_id", report settings.vendorId.toOption),
    ("product_id", report settings.productId.toOption), ("port_name", report options.portName),
    ("mux", .list [report mux.enabled, report mux.channels.control, report mux.channels.data,
      report mux.physicalInterface, report mux.interface]),
    ("primary", report mux.isPrimary), ("selective_suspend", report options.selectiveSuspend),
    ("idle_timeout_secs", report (options.idleTimeout.map (· / 1000))),
    ("pool", report options.requestPool), ("reset_backoff_ms", report options.resetBackoff),
    ("store_path", report (settings.storePath home))]

instance : Reportable SettingsError :=
  ⟨fun e => .fields [("error", report "Validate"), ("message", report e.message)]⟩

instance : Reportable Settings.LoadError :=
  ⟨fun
    | .unreadable => .fields [("error", report "Read")]
    | .malformed => .fields [("error", report "Parse")]
    | .invalid e => report e⟩

end ModemLink
