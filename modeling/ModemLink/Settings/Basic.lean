import ModemLink.Session.Basic

/-!
# Settings

What an administrator chooses: the log level and the name of the port, the device, the multiplexing,
the power policy and the place of the store. `Settings.validate` finds the first fault,
`Settings.sessionOptions` is what a session makes of them.
-/

namespace ModemLink

structure DriverSettings where
  logLevel : String := "info"
  portName : String := "modem0"
  deriving DecidableEq, Repr

structure DeviceSettings where
  vendorId : String := "0x05c6"
  productId : String := "0x9025"
  interface : UInt8 := 0
  physicalInterface : UInt8 := 0
  deriving DecidableEq, Repr

structure MuxSettings where
  enabled : Bool := false
  controlDlci : UInt8 := 1
  dataDlci : UInt8 := 2
  deriving DecidableEq, Repr

structure PowerSettings where
  selectiveSuspend : Bool := true
  /-- Seconds without a client before the device is suspended, 0 for never. -/
  idleTimeout : UInt64 := 5
  requestPool : UInt64 := 8
  deriving DecidableEq, Repr

structure StoreSettings where
  /-- `none` keeps the values in memory. -/
  path : Option String := none
  deriving DecidableEq, Repr

structure Settings where
  driver : DriverSettings := {}
  device : DeviceSettings := {}
  mux : MuxSettings := {}
  power : PowerSettings := {}
  store : StoreSettings := {}
  deriving DecidableEq, Repr

inductive SettingsError where
  | logLevel (level : String)
  | emptyPortName
  | noHexMark (name id : String)
  | hexLength (name id : String)
  | notHex (name id : String)
  | dlciRange (name : String) (dlci : UInt8)
  | sameDlci (dlci : UInt8)
  | noRequestPool
  deriving DecidableEq, Repr

def logLevels : List String := ["trace", "debug", "info", "warn", "error"]

namespace SettingsError

def message : SettingsError → String
  | logLevel level =>
      s!"Invalid log level '{level}', must be one of: " ++ ", ".intercalate logLevels
  | emptyPortName => "Empty port_name"
  | noHexMark name id => s!"Invalid {name} '{id}', must start with '0x' (e.g., '0x1234')"
  | hexLength name id => s!"Invalid {name} '{id}', hex part must be 1-4 digits"
  | notHex name id => s!"Invalid {name} '{id}', not a valid hex number"
  | dlciRange name dlci => s!"Invalid {name} {dlci}, must be 1-{Frame.maxDlci}"
  | sameDlci dlci => s!"control_dlci and data_dlci must differ (both {dlci})"
  | noRequestPool => "power_request_pool must be at least 1"

end SettingsError

namespace HexId

/-- The value of a hexadecimal numeral, which may have a plus sign. -/
def numeral? (cs : List Char) : Option UInt16 := do
  let digits := if cs.head? = some '+' then cs.tail else cs
  if digits.isEmpty then none
  let values ← digits.mapM hexValue?
  return (values.foldl (fun n d => 16 * n + d) 0).toUInt16

/-- An identifier such as `0x05c6`: a mark and up to four octets of numeral. -/
def parse (name id : String) : Except SettingsError UInt16 :=
  match id.toList with
  | '0' :: 'x' :: cs | '0' :: 'X' :: cs =>
      if cs.isEmpty || 4 < (String.ofList cs).utf8ByteSize then .error (.hexLength name id)
      else
        match numeral? cs with
        | some value => .ok value
        | none => .error (.notHex name id)
  | _ => .error (.noHexMark name id)

end HexId

/-- A path in which a leading `~` stands for the home directory. -/
def expandHome (home path : String) : String :=
  match path.toList with
  | '~' :: rest =>
      if rest.isEmpty || rest.head? = some '/' then home ++ String.ofList rest else path
  | _ => path

namespace Settings

def vendorId (settings : Settings) : Except SettingsError UInt16 :=
  HexId.parse "vendor_id" settings.device.vendorId

def productId (settings : Settings) : Except SettingsError UInt16 :=
  HexId.parse "product_id" settings.device.productId

def checkDlci (name : String) (dlci : UInt8) : Except SettingsError Unit :=
  if dlci = 0 || Frame.maxDlci < dlci then .error (.dlciRange name dlci) else .ok ()

def validate (settings : Settings) : Except SettingsError Unit := do
  if settings.driver.logLevel ∉ logLevels then throw (.logLevel settings.driver.logLevel)
  if settings.driver.portName.isEmpty then throw .emptyPortName
  discard settings.vendorId
  discard settings.productId
  checkDlci "control_dlci" settings.mux.controlDlci
  checkDlci "data_dlci" settings.mux.dataDlci
  if settings.mux.controlDlci = settings.mux.dataDlci then throw (.sameDlci settings.mux.dataDlci)
  if settings.power.requestPool = 0 then throw .noRequestPool

def muxConfig (settings : Settings) : MuxConfig :=
  { enabled := settings.mux.enabled
    channels := ⟨settings.mux.controlDlci, settings.mux.dataDlci⟩
    physicalInterface := settings.device.physicalInterface
    interface := settings.device.interface }

def sessionOptions (settings : Settings) : SessionOptions :=
  { portName := settings.driver.portName
    mux := settings.muxConfig
    selectiveSuspend := settings.power.selectiveSuspend
    idleTimeout :=
      if settings.power.idleTimeout = 0 then none
      else some (1000 * settings.power.idleTimeout.toNat)
    requestPool := settings.power.requestPool.toNat }

def storePath (settings : Settings) (home : String) : Option String :=
  settings.store.path.map (expandHome home)

end Settings

/-- The file that settings are read from when no other is named. -/
def defaultSettingsPath (home : String) : String := home ++ "/.config/usb-modem-driver/driver.toml"

/-- The file that is read when that one is missing. -/
def systemSettingsPath : String := "/etc/usb-modem-driver/driver.toml"

end ModemLink
