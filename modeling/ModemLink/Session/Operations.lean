import ModemLink.Session.Loops
import ModemLink.Session.Power

/-!
# Session operations

Starting and stopping a device, attaching and detaching its client, power requests, sending and
idle suspend.
-/

namespace ModemLink

structure StatusReport where
  lifecycle : Lifecycle := .absent
  vendorId : UInt16 := 0
  productId : UInt16 := 0
  model : Model := .none
  devicePower : DevicePower := .unspecified
  systemPower : SystemPower := .unspecified
  rxBytes : Nat := 0
  txBytes : Nat := 0
  deriving DecidableEq, Repr

namespace Session

variable {η : Type} [Host η]

def dropConfiguration : Act η Unit := do
  if (← Act.device).configuration.isSome then
    Act.releaseInterfaces
    Act.onDevice fun d => { d with configuration := none }

/-- Reads the descriptors into the identity and configures the device. -/
def enumerate : Act η Unit := do
  Act.onDevice Device.resetDescriptorCache
  let descriptor ← readDeviceDescriptor
  let strings ← readStrings descriptor
  match strings.serial with
  | some serial => Act.attempt (Act.storeSet .serialNumber (.text serial))
  | none => pure ()
  let speed := Host.speed (← get).host
  Act.onDevice fun d => { d with identity := { d.identity with
    vendorId := descriptor.vendorId
    productId := descriptor.productId
    usbVersion := descriptor.usbVersion
    speed, strings } }
  let config ← configureAny descriptor.configurations
  Act.onDevice fun d => { d with
    identity := { d.identity with model := config.model }
    configuration := some config }

/-- Brings up the pipes of the USB function itself. -/
def startPipes : Act η Unit := do
  resetPipes
  let device ← Act.device
  if device.isBroken then throw .deletePending
  match device.configuration with
  | some config => discard (Act.controlOut (.bundling config.controlInterface true))
  | none => pure ()
  Act.startLoop .interrupt

def startSequence : Act η Unit := do
  enumerate
  Act.onQueues Queues.purge
  Act.onStats fun _ => {}
  Act.startLoop .dispatch
  if (← Act.device).mux.isPrimary then startPipes

def rollbackStart : Act η Unit := do
  Act.stopAll ⟨11⟩ ⟨12⟩ ⟨13⟩ ⟨14⟩
  dropConfiguration
  Act.attempt (Act.apply .stop)

/-- A start from the present state, undone if it fails. -/
def startPresent : Act η Unit := do
  Act.apply .start
  tryCatch startSequence fun e => do
    rollbackStart
    throw e
  Act.onPower fun p => { p with device := .d0 }
  Act.attempt (Act.storeIncrement .deviceStamp)
  Act.notify (.deviceStarted (← Act.device).identity)

def start : Act η Unit := do
  match (← Act.device).lifecycle with
  | .started _ => return
  | .surpriseRemoved | .removed => throw .deletePending
  | .absent | .present => startPresent

def startDataLoops : Act η Unit := do
  Act.startLoop .read
  Act.startLoop .write

def restoreSuspendAllowed : Act η Unit := do
  let allowed := (← get).options.selectiveSuspend
  Act.onPower fun p => { p with suspendAllowed := allowed }

/-- Leaves service after the data loops could not be started. -/
def abandonOpen : Act η Unit := do
  Act.attempt (Act.stopLoop .read ⟨23⟩ true)
  Act.attempt (Act.apply .closed)
  Act.setInterfaceIdle true
  restoreSuspendAllowed
  armIdleTimer

/-- Attaches a client to a device that is awake. DTR is pulsed to reset the modem's line state. -/
def attach : Act η Unit := do
  if (← Act.device).mux.isPrimary then
    resetRole .bulkIn
    resetRole .bulkOut
  Act.apply .opened
  Act.onPower fun p => { p with suspendAllowed := false }
  cancelIdleTimer
  Act.setInterfaceIdle false
  Act.onStats fun _ => {}
  Act.onDevice fun d => { d with txPaused := false }
  tryCatch startDataLoops fun e => do
    abandonOpen
    throw e
  setLineState false false
  setLineState true true
  cancelIdleTimer

def resumeDataPath : Act η Unit := do
  Act.setInterfaceIdle false
  if (← Act.device).mux.isPrimary then Act.startLoop .interrupt
  if (← Act.device).lifecycle.inService then
    startDataLoops
    Act.kickLoop .write
  setWaitWake false
  clearSuspend

/-- Enumerates a device that lost power again and restores its client. The start leaves it at D0,
so the client is attached without waking it. -/
def reinit : Act η Unit := do
  let wasOpen := (← Act.device).lifecycle.inService
  Act.stopAll ⟨51⟩ ⟨52⟩ ⟨53⟩ ⟨54⟩
  if wasOpen then Act.apply .closed
  Act.releaseInterfaces
  Act.apply .stop
  clearSuspend
  Act.attempt (Act.storeIncrement .ssrCounter)
  start
  if wasOpen then attach

/-- A device level requested by the host or by the driver itself; only the host's are reported. -/
def setDevicePower (level : DevicePower) : Act η Unit := do
  let disposition ← filterRequest (.setDevice level)
  let signal ← recordDevicePower level
  match signal with
  | some .standby => stopDataPath (!(← Act.device).power.system.isAwake) {}
  | some .wakeup => resumeDataPath
  | some .wakeupReset => reinit
  | none =>
      if level.isLow && !(← Act.device).power.system.isAwake then setWaitWake false
  if disposition = .forward then Act.notify (.powerStateChanged level)

def handlePower : PowerRequest → Act η Unit
  | .queryDevice level => do orThrow ((← Act.device).checkVeto level)
  | .querySystem _ => pure ()
  | .setSystem level => setSystemPower level
  | .setDevice level => setDevicePower level

def ensureAwake : Act η Unit := do
  if !(← Act.device).power.device.isLow then return
  let handle ← requestSelfPower .d0
  tryCatch (setDevicePower .d0) fun e => do
    discard (cancelRequest handle)
    throw e

def «open» : Act η Unit := do
  match (← Act.device).lifecycle with
  | .started true => throw .deviceBusy
  | .started false =>
      ensureAwake
      attach
  | _ => throw .deletePending

/-- Detaches the client; without one there is nothing to do. -/
def close : Act η Unit := do
  if !(← Act.device).lifecycle.inService then return
  setLineState false false
  Act.attempt (Act.stopLoop .write ⟨21⟩ false)
  Act.attempt (Act.stopLoop .read ⟨22⟩ true)
  Act.apply .closed
  Act.onQueues fun q => { q.purge with notification := none }
  Act.onDevice fun d => { d with txPaused := false }
  Act.setInterfaceIdle true
  restoreSuspendAllowed
  armIdleTimer

def stopAllLoops : Act η Unit := Act.stopAll ⟨41⟩ ⟨42⟩ ⟨43⟩ ⟨44⟩

def stop : Act η Unit := do
  Act.attempt close
  stopAllLoops
  dropConfiguration
  cancelIdleTimer
  Act.apply .stop

/-- The device left the bus without warning; there is nothing left to release. -/
def surpriseRemove : Act η Unit := do
  Act.attempt (Act.apply .surpriseRemove)
  stopAllLoops
  Act.onQueues Queues.purge
  Act.onDevice fun d => { d with configuration := none }
  cancelIdleTimer
  Act.notify .deviceRemoved

def shutdown : Act η Unit := do
  Act.attempt close
  stopAllLoops
  dropConfiguration
  Act.attempt (Act.apply .remove)

/-- Fails when the device is no longer reachable. -/
def checkHealth : Act η Unit := do
  if (← Act.device).isBroken then throw .deletePending

/-- The driver's own request for D2. The device is no longer taken for idle if it fails. -/
def ownSuspend (handle : PowerRequestHandle) : Act η Unit :=
  tryCatch (setDevicePower .d2) fun e => do
    discard (cancelRequest handle)
    Act.onPower fun p => { p with idleSuspended := false }
    throw e

def suspendIdle : Act η Unit := do
  cancelIdleTimer
  Act.onPower fun p => { p with idleSuspended := true }
  let handle ← requestSelfPower .d2
  ownSuspend handle

/-- Suspends the device once its idle timer has fired; was it suspended? -/
def pollIdle (now : Nat) : Act η Bool := do
  if !(← Act.device).idleExpired now then return false
  suspendIdle
  return true

/-- Queues a payload for one of the channels, framed when the multiplexer is on. -/
def send (channel : Channel) (payload : Bytes) : Act η Unit := do
  let lifecycle := (← Act.device).lifecycle
  if !lifecycle.inService then throw (.invalidState lifecycle.name "send")
  ensureAwake
  let mux := (← Act.device).mux
  let frame ←
    if mux.enabled then
      match Frame.encode mux.channels channel payload with
      | .ok frame => pure frame
      | .error e => throw (.codec e)
    else pure payload
  match channel with
  | .data => Act.onQueues fun q => q.pushWrite frame
  | .control => Act.onQueues fun q => q.pushControl frame
  Act.kickLoop .write

def takeNotification : Act η (Option Bytes) :=
  modifyGet fun s =>
    (s.device.queues.notification,
      { s with device := { s.device with queues := { s.device.queues with notification := none } } })

def status (s : Session η) : StatusReport where
  lifecycle := s.device.lifecycle
  vendorId := s.device.identity.vendorId
  productId := s.device.identity.productId
  model := s.device.identity.model
  devicePower := s.device.power.device
  systemPower := s.device.power.system
  rxBytes := s.device.stats.rxBytes
  txBytes := s.device.stats.txBytes

end Session

end ModemLink
