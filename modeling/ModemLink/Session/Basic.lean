import ModemLink.Host

/-!
# Sessions

A session owns one logical device on one host. Its operations are state transformers that may fail:
a failure keeps every change made before it. `trace` lists the calls that left the session.
-/

namespace ModemLink

/-- Bus location and interface of a logical device. -/
structure AdapterKey where
  bus : UInt8
  address : UInt8
  interface : UInt8
  deriving DecidableEq, Repr

structure SessionOptions where
  portName : String := "modem0"
  mux : MuxConfig := {}
  /-- The device may be suspended while no client is attached. -/
  selectiveSuspend : Bool := true
  /-- Idle time before a selective suspend, in milliseconds; `none` for never. -/
  idleTimeout : Option Nat := some 5000
  requestPool : Nat := 8
  /-- Pause between two attempts to reset the pipes, in milliseconds. -/
  resetBackoff : Nat := 400
  deriving DecidableEq, Repr

structure ServiceLoop where
  /-- Started and not asked to stop. -/
  live : Bool := false
  /-- The endpoint that the configuration gave the loop when it was started. -/
  endpoint : Option UInt8 := none
  closedTag : Option StopTag := none
  deriving DecidableEq, Repr

structure ServiceLoops where
  read : ServiceLoop := {}
  write : ServiceLoop := {}
  dispatch : ServiceLoop := {}
  interrupt : ServiceLoop := {}
  deriving DecidableEq, Repr

namespace ServiceLoops

def get (loops : ServiceLoops) : LoopName → ServiceLoop
  | .read => loops.read
  | .write => loops.write
  | .dispatch => loops.dispatch
  | .interrupt => loops.interrupt

def set (loops : ServiceLoops) (name : LoopName) (loop : ServiceLoop) : ServiceLoops :=
  match name with
  | .read => { loops with read := loop }
  | .write => { loops with write := loop }
  | .dispatch => { loops with dispatch := loop }
  | .interrupt => { loops with interrupt := loop }

@[simp] theorem get_set (loops : ServiceLoops) (name other : LoopName) (loop : ServiceLoop) :
    (loops.set name loop).get other = if other = name then loop else loops.get other := by
  cases name <;> cases other <;> rfl

end ServiceLoops

structure Session (η : Type) where
  key : AdapterKey
  options : SessionOptions
  device : Device
  host : η
  loops : ServiceLoops := {}
  store : Store := {}
  /-- The time, in milliseconds. -/
  now : Nat := 0
  trace : Array Event := #[]

namespace Session

variable {η α : Type}

def absent (key : AdapterKey) (host : η) (store : Store) (options : SessionOptions) :
    Session η where
  key
  options
  device :=
    let device := Device.create options.mux options.portName options.requestPool
    { device with power := { device.power with suspendAllowed := options.selectiveSuspend } }
  host
  store

def create (key : AdapterKey) (host : η) (store : Store) (options : SessionOptions) :
    Session η :=
  let session := absent key host store options
  { session with device := { session.device with lifecycle := .present } }

end Session

abbrev Act (η α : Type) := ExceptT DriverError (StateM (Session η)) α

namespace Act

variable {η α : Type}

def exec (act : Act η α) (session : Session η) : Except DriverError α × Session η :=
  act.run.run session

def attempt (act : Act η α) : Act η Unit := tryCatch (discard act) fun _ => pure ()

def onDevice (f : Device → Device) : Act η Unit := modify fun s => { s with device := f s.device }

def onPower (f : PowerRecord → PowerRecord) : Act η Unit :=
  onDevice fun d => { d with power := f d.power }

def onQueues (f : Queues → Queues) : Act η Unit := onDevice fun d => { d with queues := f d.queues }

def onStats (f : TransferStats → TransferStats) : Act η Unit :=
  onDevice fun d => { d with stats := f d.stats }

def device : Act η Device := return (← get).device

def emit (event : Event) : Act η Unit := modify fun s => { s with trace := s.trace.push event }

def notify (notification : Notification) : Act η Unit := emit (.notify notification)

/-- A lifecycle event; the state stays on error. -/
def apply (event : LifecycleEvent) : Act η Unit := do
  match (← device).lifecycle.next event with
  | .ok lifecycle => onDevice fun d => { d with lifecycle }
  | .error e => throw e

def recordPipe (pipe : TrackedPipe) (result : Except UsbError α) : Act η Unit :=
  onDevice fun d => { d with pipes := d.pipes.set pipe (match result with
    | .ok _ => none
    | .error e => some e) }

def onHost (f : η → α × η) : Act η α :=
  modifyGet fun s => ((f s.host).1, { s with host := (f s.host).2 })

variable [Host η]

def getDescriptor (kind : DescriptorKind) (index : UInt8) (language : UInt16) (length : Nat) :
    Act η (Except UsbError Bytes) := do
  emit (.getDescriptor kind index language length)
  let result ← onHost (Host.getDescriptor kind index language length)
  return result.map fun bytes => bytes.take length

def selectConfiguration (value : UInt8) (interfaces : List Selection) :
    Act η (Except UsbError (List Pipe)) := do
  let result ← onHost (Host.selectConfiguration value interfaces)
  emit (.selectConfiguration value interfaces result.isOk)
  return result

def releaseInterfaces : Act η Unit := do
  emit .releaseInterfaces
  onHost fun host => ((), Host.releaseInterfaces host)

def bulkIn (endpoint : UInt8) (length timeout : Nat) : Act η (Except UsbError Bytes) := do
  emit (.bulkIn endpoint length timeout)
  let result ← onHost (Host.bulkIn endpoint length timeout)
  return result.map fun bytes => bytes.take length

def interruptIn (endpoint : UInt8) (length timeout : Nat) : Act η (Except UsbError Bytes) := do
  emit (.interruptIn endpoint length timeout)
  let result ← onHost (Host.interruptIn endpoint length timeout)
  return result.map fun bytes => bytes.take length

def bulkOut (endpoint : UInt8) (data : Bytes) (timeout : Nat) : Act η (Except UsbError Nat) := do
  let result ← onHost (Host.bulkOut endpoint data timeout)
  emit (.bulkOut endpoint data timeout result)
  return result

def resetPipe (endpoint : UInt8) : Act η (Except UsbError Unit) := do
  let result ← onHost (Host.resetPipe endpoint)
  emit (.resetPipe endpoint result)
  return result

/-- A control request; its outcome is the status of the default pipe. -/
def controlOut (request : ControlRequest) : Act η (Except UsbError Unit) := do
  let result ← onHost (Host.controlOut request)
  emit (.controlOut request result)
  recordPipe .control result
  return result

/-- Lets the data interface suspend, or keeps it awake; only the USB function itself says so, and
a failure changes nothing. -/
def setInterfaceIdle (idle : Bool) : Act η Unit := do
  if (← device).mux.isPrimary then
    emit (.setIdle idle)
    let _ ← onHost (Host.setIdle idle)

/-- Starts a loop unless it is live; a started loop takes its endpoint from the configuration. -/
def startLoop (name : LoopName) : Act η Unit := do
  let result ← onHost (Host.startLoop name)
  emit (.startLoop name result.isOk)
  match result with
  | .error e => throw e
  | .ok () =>
      modify fun s =>
        let loop := s.loops.get name
        if loop.live then s
        else
          let endpoint := match name with
            | .read => s.device.endpoint? .bulkIn
            | .write => s.device.endpoint? .bulkOut
            | .dispatch => none
            | .interrupt => s.device.endpoint? .interrupt
          { s with loops := s.loops.set name { loop with live := true, endpoint } }

/-- Stops a loop; one that is not live keeps its tag. -/
def stopLoop (name : LoopName) (tag : StopTag) (wait : Bool) : Act η Unit := do
  let result ← onHost (Host.stopLoop name tag wait)
  emit (.stopLoop name tag wait result.isOk)
  match result with
  | .error e => throw e
  | .ok () =>
      modify fun s =>
        let loop := s.loops.get name
        if loop.live then
          { s with loops := s.loops.set name { live := false, closedTag := some tag } }
        else s

def kickLoop (name : LoopName) : Act η Unit := emit (.kickLoop name)

/-- Stops all loops and waits for each, whether or not one fails. -/
def stopAll (read write dispatch interrupt : StopTag) : Act η Unit := do
  attempt (stopLoop .read read true)
  attempt (stopLoop .write write true)
  attempt (stopLoop .dispatch dispatch true)
  attempt (stopLoop .interrupt interrupt true)

def storeSet (key : StoreKey) (value : StoreValue) : Act η Unit := do
  emit (.storeSet key value)
  let result ← modifyGet fun s =>
    ((s.store.set key value).1, { s with store := (s.store.set key value).2 })
  match result with
  | .error e => throw e
  | .ok () => pure ()

def storeIncrement (key : StoreKey) : Act η Unit := do
  emit (.storeGet key)
  match (← get).store.get key with
  | .error e => throw e
  | .ok value => storeSet key (.number (StoreValue.next value))

end Act

end ModemLink
