import ModemLink.Settings.Basic
import ModemLink.Toml.Text

/-!
# Settings as written to a file

One section after the other, with a blank line between them.
-/

namespace ModemLink.Settings

/-- A number of a file has 63 bits. -/
def writeCount (n : UInt64) : Option String := if n < 0x8000000000000000 then some (toString n) else none

def sectionText (name : String) (fields : List (String × String)) : String :=
  "[" ++ name ++ "]\n" ++ String.join (fields.map fun (key, value) => key ++ " = " ++ value ++ "\n")

def render? (settings : Settings) : Option String := do
  let { driver, device, mux, power, store } := settings
  let idleTimeout ← writeCount power.idleTimeout
  let requestPool ← writeCount power.requestPool
  return "\n".intercalate [
    sectionText "driver" [
      ("log_level", Toml.writeString driver.logLevel),
      ("port_name", Toml.writeString driver.portName)],
    sectionText "device" [
      ("vendor_id", Toml.writeString device.vendorId),
      ("product_id", Toml.writeString device.productId),
      ("interface_number", toString device.interface),
      ("physical_interface_number", toString device.physicalInterface)],
    sectionText "mux" [
      ("enabled", toString mux.enabled),
      ("control_dlci", toString mux.controlDlci),
      ("data_dlci", toString mux.dataDlci)],
    sectionText "power" [
      ("selective_suspend", toString power.selectiveSuspend),
      ("idle_timeout_secs", idleTimeout),
      ("power_request_pool", requestPool)],
    sectionText "store" (store.path.toList.map fun path => ("path", Toml.writeString path))]

end ModemLink.Settings
