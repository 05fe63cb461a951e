import ModemLink.Session.Operations
import ModemLink.Session.Schedule
import ModemLink.Usb.DescriptorBuilder

/-!
# A scripted modem

A host that answers from prepared descriptors and queues, fails where its script says so, and
remembers what was done to it.
-/

namespace ModemLink

/-- How one call is to be answered. -/
inductive Injection where
  /-- As if there were no script. -/
  | pass
  | fail (cause : UsbError)
  /-- With fewer octets counted than delivered. -/
  | short (count : Nat)
  deriving DecidableEq, Repr

inductive ScriptedCall where
  | getDescriptor
  | selectConfiguration
  | bulkOut
  | resetPipe
  | controlOut
  | setIdle
  deriving DecidableEq, Repr

structure ScriptedModem where
  speed : Speed := .high
  device : Bytes := DeviceDescriptor.build 0x05c6 0x9025
  config : Bytes := ConfigPlan.modem.build
  /-- Configuration descriptors from index 1 on. -/
  moreConfigs : List Bytes := []
  strings : List (UInt8 × Bytes) :=
    [(1, StringDescriptor.build "Acme"), (2, StringDescriptor.build "LTE Modem"),
      (3, StringDescriptor.build "SN0001")]
  /-- String descriptors that go before `strings`. -/
  rawStrings : List (UInt8 × Bytes) := []
  injected : List (ScriptedCall × Injection) := []
  selectError : Option UsbError := none
  controlError : Option UsbError := none
  resetErrors : List UsbError := []
  bulkIn : List (Except UsbError Bytes) := []
  interruptIn : List (Except UsbError Bytes) := []
  startFails : List LoopName := []
  stopFails : List LoopName := []
  sent : Array Bytes := #[]
  controls : Array ControlRequest := #[]
  resets : Array UInt8 := #[]
  idles : Array Bool := #[]
  releases : Nat := 0

namespace ScriptedModem

def inject (m : ScriptedModem) (call : ScriptedCall) (items : List Injection) : ScriptedModem :=
  { m with injected := m.injected ++ items.map fun item => (call, item) }

def takeInjection (m : ScriptedModem) (call : ScriptedCall) : Injection × ScriptedModem :=
  match m.injected.find? fun item => item.1 == call with
  | some item => (item.2, { m with injected := m.injected.eraseP fun item => item.1 == call })
  | none => (.pass, m)

def setString (m : ScriptedModem) (index : UInt8) (text : String) : ScriptedModem :=
  { m with strings := (index, StringDescriptor.build text) :: m.strings }

def failResets (m : ScriptedModem) (count : Nat) (cause : UsbError) : ScriptedModem :=
  { m with resetErrors := m.resetErrors ++ List.replicate count cause }

def setStartFails (m : ScriptedModem) (loop : LoopName) (fails : Bool) : ScriptedModem :=
  { m with startFails := if fails then loop :: m.startFails else m.startFails.filter (· != loop) }

def setStopFails (m : ScriptedModem) (loop : LoopName) (fails : Bool) : ScriptedModem :=
  { m with stopFails := if fails then loop :: m.stopFails else m.stopFails.filter (· != loop) }

def descriptor (m : ScriptedModem) (kind : DescriptorKind) (index : UInt8) :
    Except UsbError Bytes :=
  match kind with
  | .device => .ok m.device
  | .configuration =>
      if index = 0 then .ok m.config
      else match m.moreConfigs[index.toNat - 1]? with
        | some bytes => .ok bytes
        | none => .error .notFound
  | .string =>
      match m.rawStrings.lookup index <|> m.strings.lookup index with
      | some bytes => .ok bytes
      | none => .error .pipe

/-- The endpoints of the selected settings, in the order of the descriptor. -/
def pipesOf (selections : List Selection) (current : Option Selection) : List Record → List Pipe
  | [] => []
  | .interface d :: rest => pipesOf selections (some ⟨d.number, d.alternate⟩) rest
  | .endpoint d :: rest =>
      match current with
      | some selection =>
          if selection ∈ selections then
            { interface := selection.interface, endpoint := d.address
              type := .ofAttributes d.attributes, maxPacket := d.maxPacket } ::
              pipesOf selections current rest
          else pipesOf selections current rest
      | none => pipesOf selections current rest
  | _ :: rest => pipesOf selections current rest

def pipes (m : ScriptedModem) (value : UInt8) (selections : List Selection) : List Pipe :=
  let config := (m.moreConfigs.find? fun bytes => bytes.getD 5 0 == value).getD m.config
  pipesOf selections none (Record.ofConfiguration config)

instance : Host ScriptedModem where
  getDescriptor kind index _ length m :=
    let (item, m) := m.takeInjection .getDescriptor
    match item with
    | .fail cause => (.error cause, m)
    | .pass => ((m.descriptor kind index).map (·.take length), m)
    | .short count => ((m.descriptor kind index).map fun bytes => (bytes.take length).take count, m)
  selectConfiguration value selections m :=
    let (item, m) := m.takeInjection .selectConfiguration
    match item, m.selectError with
    | .fail cause, _ => (.error cause, m)
    | _, some cause => (.error cause, m)
    | _, none => (.ok (m.pipes value selections), m)
  releaseInterfaces m := { m with releases := m.releases + 1 }
  bulkIn _ length _ m :=
    match m.bulkIn with
    | [] => (.error .timeout, m)
    | item :: rest => (item.map (·.take length), { m with bulkIn := rest })
  bulkOut _ data _ m :=
    let (item, m) := m.takeInjection .bulkOut
    match item with
    | .fail cause => (.error cause, m)
    | _ => (.ok data.length, { m with sent := m.sent.push data })
  interruptIn _ length _ m :=
    match m.interruptIn with
    | [] => (.error .timeout, m)
    | item :: rest => (item.map (·.take length), { m with interruptIn := rest })
  resetPipe endpoint m :=
    let (item, m) := m.takeInjection .resetPipe
    match item with
    | .fail cause => (.error cause, m)
    | _ =>
        let m := { m with resets := m.resets.push endpoint }
        match m.resetErrors with
        | [] => (.ok (), m)
        | cause :: rest => (.error cause, { m with resetErrors := rest })
  controlOut request m :=
    let (item, m) := m.takeInjection .controlOut
    match item with
    | .fail cause => (.error cause, m)
    | _ =>
        let m := { m with controls := m.controls.push request }
        match m.controlError with
        | none => (.ok (), m)
        | some cause => (.error cause, m)
  setIdle idle m :=
    let (item, m) := m.takeInjection .setIdle
    match item with
    | .fail cause => (.error cause, m)
    | _ => (.ok (), { m with idles := m.idles.push idle })
  speed m := m.speed
  startLoop loop m :=
    if loop ∈ m.startFails then (.error (.service (loop.name) "no thread"), m) else (.ok (), m)
  stopLoop loop _ _ m :=
    if loop ∈ m.stopFails then (.error (.service (loop.name) "stuck"), m) else (.ok (), m)

end ScriptedModem

instance : Inbound ScriptedModem where
  bulk m := m.bulkIn.length
  interrupt m := m.interruptIn.length

end ModemLink
