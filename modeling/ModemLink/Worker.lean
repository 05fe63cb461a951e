import ModemLink.Bridge
import ModemLink.Bus.Link
import ModemLink.Post
import ModemLink.Session.Schedule

/-!
# The driver's worker

One thread owns the session of the configured device. Between two commands it handles one plug event
of the bus, polls the idle timer and checks that the device can still be reached. `Worker.settle`
lets all that and the service loops run until nothing is left to do.
-/

namespace ModemLink

instance : Inbound Link where
  bulk link :=
    link.device.errors.countP (·.1 == .bulkIn) +
      if link.device.gated then 0 else link.device.bulk.length
  interrupt link :=
    link.device.errors.countP (·.1 == .interruptIn) +
      if link.device.gated then 0 else link.device.interrupts.length

/-- What the worker drives. -/
structure WorkerSettings where
  vendorId : UInt16 := 0x05c6
  productId : UInt16 := 0x9025
  session : SessionOptions := {}
  deriving DecidableEq, Repr

structure Resources where
  bus : Bus
  /-- The file of the store; `none` for a store in memory. -/
  disk : Option Disk := none

inductive Attachment where
  | detached (resources : Resources)
  | attached (session : Session Link)

namespace Attachment

def session? : Attachment → Option (Session Link)
  | detached _ => none
  | attached session => some session

def bus : Attachment → Bus
  | detached resources => resources.bus
  | attached session => session.host.bus

def disk : Attachment → Option Disk
  | detached resources => resources.disk
  | attached session => session.store.disk?

def setBus (bus : Bus) : Attachment → Attachment
  | detached resources => detached { resources with bus }
  | attached session => attached { session with host := { session.host with bus } }

end Attachment

structure Worker where
  settings : WorkerSettings
  attachment : Attachment
  registry : Registry Unit := {}
  /-- Plug events of the bus are reported. -/
  watching : Bool := false
  bridge : Bridge := {}
  /-- How the thread ended. -/
  ended : Option (Except DriverError Unit) := none

namespace Worker

def bus (worker : Worker) : Bus := worker.attachment.bus

def setBus (worker : Worker) (bus : Bus) : Worker :=
  { worker with attachment := worker.attachment.setBus bus }

def publish (worker : Worker) (session : Session Link) : Worker :=
  let notifications := session.trace.toList.filterMap Event.notification?
  { worker with bridge := notifications.foldl (fun b n => b.offerEvent n.toEvent) worker.bridge }

def keep (worker : Worker) (session : Session Link) : Worker :=
  { worker.publish session with attachment := .attached { session with trace := #[] } }

/-- Drops a session, which closes its device. -/
def release (worker : Worker) (session : Session Link) : Worker :=
  { worker.publish session with attachment := .detached {
      bus := (Link.close.run.run session.host).2.bus, disk := session.store.disk? } }

def post (worker : Worker) : Post Link where
  session := worker.attachment.session?
  registry := worker.registry

/-- Goes on with what has become of its post, after a session that is lost has been dropped. -/
def resume (worker : Worker) (lost : Option (Session Link)) (post : Post Link) : Worker :=
  let worker := { worker with registry := post.registry }
  match lost, post.session with
  | some session, _ => worker.release session
  | none, some session => worker.keep session
  | none, none => worker

def openStore : Option Disk → Except DriverError Store
  | none => .ok {}
  | some disk => Store.open disk

def newSession (worker : Worker) (link : Link) (store : Store) : Session Link :=
  let options := worker.settings.session
  Session.create ⟨link.device.bus, link.device.address, options.mux.interface⟩ link store options

def startSession (worker : Worker) (link : Link) (disk : Option Disk) : Worker :=
  match openStore disk with
  | .error _ =>
      { worker with attachment := .detached { bus := (Link.close.run.run link).2.bus, disk } }
  | .ok store =>
      let session := worker.newSession link store
      match worker.post.occupy session with
      | .error _ => worker.release session
      | .ok post =>
          match Session.start.exec session with
          | (.ok (), session) => worker.resume none { post with session := some session }
          | (.error _, session) => worker.resume (some session) post.release

/-- Opens and starts the configured device if it is on the bus. -/
def attach (worker : Worker) : Worker :=
  match worker.attachment with
  | .attached _ => worker
  | .detached { bus, disk } =>
      let { vendorId, productId, .. } := worker.settings
      match (Bus.openLink vendorId productId).run.run bus with
      | (.ok handle, bus) => worker.startSession ⟨bus, handle⟩ disk
      | (.error _, bus) => worker.setBus bus

/-- Gives the device up for lost. -/
def detach (worker : Worker) : Worker :=
  let (lost, post) := worker.post.detach
  worker.resume lost post

def matchesDevice (worker : Worker) (device : BusDevice) : Bool :=
  device.vendorId == worker.settings.vendorId && device.productId == worker.settings.productId

/-- A device that arrived is taken if there is no session; one that left takes its session along. -/
def onPlugEvent (worker : Worker) : PlugEvent → Worker
  | .arrived n => if worker.matchesDevice (worker.bus.device n) then worker.attach else worker
  | .left n =>
      let device := worker.bus.device n
      match worker.attachment with
      | .attached session =>
          if worker.matchesDevice device && session.key.bus == device.bus &&
            session.key.address == device.address then worker.detach else worker
      | .detached _ => worker

/-- Handles one event of the bus. -/
def handleEvents (worker : Worker) : Worker :=
  let (event, bus) := Bus.handleEvents.run.run worker.bus
  let worker := worker.setBus bus
  match event with
  | .ok (some event) => if worker.watching then worker.onPlugEvent event else worker
  | .ok none | .error _ => worker

/-- Polls the idle timer and the health of a session. -/
def tend : Act Link Unit := do
  Act.attempt (Session.pollIdle (← get).now)
  Session.checkHealth

def poll (worker : Worker) : Worker :=
  match worker.attachment with
  | .detached _ => worker
  | .attached session =>
      match tend.exec session with
      | (.ok (), session) => worker.keep session
      | (.error _, session) => (worker.keep session).detach

def runLoops (worker : Worker) : Worker :=
  match worker.attachment with
  | .detached _ => worker
  | .attached session => worker.keep (Session.runLoops.exec session).2

/-- One turn of the worker without a command. -/
def turn (worker : Worker) : Worker := worker.runLoops.handleEvents.poll

/-- As many turns as the bus has events for, and a few for what they lead to. -/
def settle (worker : Worker) : Worker :=
  let turns := worker.bus.events.length + worker.bus.errors.countP (·.1 == .handleEvents) + 3
  if worker.ended.isSome then worker else turns.repeat turn worker

/-- The thread ends, and with it its side of the bridge. -/
def finish (worker : Worker) (result : Except DriverError Unit) : Worker :=
  { worker with bridge := worker.bridge.close, ended := some result }

/-- A worker on a bus, watching for its device if the bus can tell. -/
def prepare (settings : WorkerSettings) (bus : Bus) (disk : Option Disk) :
    Except DriverError Unit × Worker :=
  let worker : Worker := { settings, attachment := .detached { bus, disk } }
  let watch : BusAct Unit := do
    Bus.mayFail .registerHotplug
    Bus.record (.hotplug settings.vendorId settings.productId)
  match bus.initError with
  | some e => (.error (.transport (.ofBus e)), worker)
  | none =>
      if !bus.hasHotplug then (.ok (), worker)
      else
        match watch.run.run bus with
        | (.ok (), bus) => (.ok (), { worker with watching := true }.setBus bus)
        | (.error e, bus) => (.error (.transport (.ofBus e)), worker.setBus bus)

def launch (settings : WorkerSettings) (bus : Bus) (disk : Option Disk) : Worker :=
  match prepare settings bus disk with
  | (.ok (), worker) => worker.attach
  | (.error e, worker) => worker.finish (.error e)

def shutdown (worker : Worker) : Worker :=
  match worker.attachment with
  | .detached _ => worker.finish (.ok ())
  | .attached session =>
      let ended := (Session.shutdown.exec session).2
      (worker.resume (some ended) worker.post.release).finish (.ok ())

def execute (worker : Worker) (command : Command) : Option Reply × Worker :=
  let handling := worker.post.handle command
  (handling.reply, worker.resume handling.lost handling.post)

def answer (worker : Worker) (command : Command) : Except ClientError (Option Reply) × Worker :=
  match worker.bridge.sendCommand command with
  | (.error e, bridge) => (.error e, { worker with bridge })
  | (.ok (), bridge) =>
      match bridge.receiveCommand with
      | (some (.ok .shutdown), bridge) => (.ok none, { worker with bridge }.shutdown)
      | (some (.ok command), bridge) =>
          let (reply, worker) := { worker with bridge }.execute command
          (.ok reply, worker)
      | (_, bridge) => (.ok none, { worker with bridge })

end Worker

end ModemLink
