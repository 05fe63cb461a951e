import ModemLink.Session.Pipes

/-!
# Power transitions

What a change of a device or system level does to the record, the pipes and the loops.
-/

namespace ModemLink.Session

variable {η : Type} [Host η]

/-- Tags of the loops stopped for a power transition: read, write, interrupt. -/
structure PowerStopTags where
  read : StopTag := ⟨31⟩
  write : StopTag := ⟨32⟩
  interrupt : StopTag := ⟨33⟩

/-- Records a device level; a vetoed one changes nothing. -/
def recordDevicePower (target : DevicePower) : Act η (Option PowerSignal) := do
  orThrow ((← Act.device).checkVeto target)
  modifyGet fun s =>
    let (signal, power) := s.device.power.setDevice target
    (signal, { s with device := { s.device with power } })

/-- Records a system level. A deep sleep drops the frames waiting to be sent, and the first one of
a sleep cycle deregisters the modem. -/
def setSystemPower (target : SystemPower) : Act η Unit := do
  let sent := (← Act.device).power.deregistrationSent
  Act.onPower fun p => p.setSystem target
  if target.isDeepSleep then
    Act.onQueues Queues.flush
    if !sent then Act.notify .deregistration

def requestSelfPower (target : DevicePower) : Act η PowerRequestHandle := do
  let (handle, pool) ← orThrow ((← Act.device).pool.push target)
  Act.onDevice fun d => { d with pool }
  return handle

def cancelRequest (handle : PowerRequestHandle) : Act η Bool :=
  modifyGet fun s =>
    let (found, pool) := s.device.pool.cancel handle
    (found, { s with device := { s.device with pool } })

def filterRequest (request : PowerRequest) : Act η PowerDisposition :=
  modifyGet fun s =>
    let (disposition, pool) := s.device.pool.filter request
    (disposition, { s with device := { s.device with pool } })

/-- Arms or disarms remote wakeup, with a request only on a change. Arming needs a configuration
that offers it; disarming clears the flag even when the request fails. -/
def setWaitWake (armed : Bool) : Act η Unit := do
  let device ← Act.device
  if device.power.waitWakeArmed == armed then return
  if armed && !device.configuration.any UsbConfiguration.remoteWakeup then return
  match ← Act.controlOut (.remoteWakeup armed) with
  | .ok () => Act.onPower fun p => { p with waitWakeArmed := armed }
  | .error _ => if !armed then Act.onPower fun p => { p with waitWakeArmed := false }

/-- DTR is dropped when the device goes to D3 with a system that sleeps or is about to. -/
def dropsDtr (power : PowerRecord) : Bool :=
  power.device == .d3 && (!power.system.isAwake || power.prepareToPowerDown)

/-- Quiesces the data path, unless that has been done already. An idle suspend arms remote wakeup,
unless it is to be cancelled. -/
def stopDataPath (cancelWaitWake : Bool) (tags : PowerStopTags) : Act η Unit := do
  let power := (← Act.device).power
  if power.lowPowerMode then return
  Act.onPower fun p => { p with powerSuspended := true, lowPowerMode := true }
  if cancelWaitWake then setWaitWake false
  else if power.idleSuspended then setWaitWake true
  Act.setInterfaceIdle true
  if dropsDtr power then setLineState false false
  Act.attempt (Act.stopLoop .read tags.read true)
  Act.attempt (Act.stopLoop .write tags.write false)
  Act.attempt (Act.stopLoop .interrupt tags.interrupt true)
  Act.onDevice fun d => { d with inflightResponses := 0 }

def clearSuspend : Act η Unit := Act.onPower PowerRecord.clearSuspend

/-- Starts the idle timer at `now`, if there is one. -/
def armIdleTimerAt (now : Nat) : Act η Unit := do
  match (← get).options.idleTimeout with
  | some timeout => Act.onPower fun p => { p with idleDeadline := some (now + timeout) }
  | none => return

def armIdleTimer : Act η Unit := do armIdleTimerAt (← get).now

def cancelIdleTimer : Act η Unit := Act.onPower fun p => { p with idleDeadline := none }

end ModemLink.Session
