import ModemLink.Proofs.Session.Core

/-!
# Routine

Reading descriptors, resetting pipes, control requests, the stored serial number, the queues and
the pool of power requests are routine. A view that `Overlooks` the host, that number, the routine
events and the minor fields of the record is the same after all of them.
-/

namespace ModemLink

open Act

variable {η α γ : Type}

def Event.isRoutine : Event → Bool
  | .getDescriptor .. | .resetPipe .. | .controlOut .. | .setIdle _ | .kickLoop _ | .storeGet _
  | .storeSet .. => true
  | _ => false

/-- Equal but for the fields that routine changes. -/
structure Device.Resembles (d e : Device) : Prop where
  mux : d.mux = e.mux
  lifecycle : d.lifecycle = e.lifecycle
  configuration : d.configuration = e.configuration
  power : d.power.disarmed = e.power.disarmed

structure Overlooks (view : Session η → γ) : Prop where
  host (session : Session η) (host : η) : view { session with host } = view session
  serial (session : Session η) (value : StoreValue) :
    view { session with store := (session.store.set .serialNumber value).2 } = view session
  device (session : Session η) {device : Device} (same : device.Resembles session.device) :
    view { session with device } = view session
  trace (session : Session η) {event : Event} (routine : event.isRoutine = true) :
    view { session with trace := session.trace.push event } = view session

structure OverlooksLoops (view : Session η → γ) : Prop extends Overlooks view where
  loops (session : Session η) (loops : ServiceLoops) : view { session with loops } = view session
  starting (session : Session η) (name : LoopName) (ok : Bool) :
    view { session with trace := session.trace.push (.startLoop name ok) } = view session
  stopping (session : Session η) (name : LoopName) (tag : StopTag) (wait ok : Bool) :
    view { session with trace := session.trace.push (.stopLoop name tag wait ok) } = view session

/-- The end of an enumeration: the identity is recorded and a configuration is chosen. -/
def Session.settle [Host η] (descriptor : DeviceDescriptor) (strings : DeviceStrings) :
    Act η Unit := do
  let speed := Host.speed (← get).host
  Act.onDevice fun d => { d with identity := { d.identity with
    vendorId := descriptor.vendorId
    productId := descriptor.productId
    usbVersion := descriptor.usbVersion
    speed, strings } }
  let config ← configureAny descriptor.configurations
  Act.onDevice fun d => { d with
    identity := { d.identity with model := config.model }
    configuration := some config }

/-- The end of a start sequence, from a device that was enumerated. -/
def Session.bringUp [Host η] : Act η Unit := do
  Act.onQueues Queues.purge
  Act.onStats fun _ => {}
  Act.startLoop .dispatch
  if (← Act.device).mux.isPrimary then startPipes

section Errors

variable {view : Session η → γ}

theorem spares_orTransport (result : Except UsbError α) :
    (Session.orTransport result : Act η α).Spares view := by
  cases result with
  | ok a => exact spares_pure a
  | error e => exact spares_throw _

theorem spares_orThrow (result : Except DriverError α) :
    (Session.orThrow result : Act η α).Spares view := by
  cases result with
  | ok a => exact spares_pure a
  | error e => exact spares_throw _

theorem spares_refuse (fault : DescriptorFault) : (Session.refuse fault : Act η α).Spares view :=
  spares_throw _

theorem spares_orRefuse (result : Except DescriptorFault α) :
    (Session.orRefuse result : Act η α).Spares view := by
  cases result with
  | ok a => exact spares_pure a
  | error fault => exact spares_refuse fault

end Errors

/-- The count goes up even if it cannot be written. -/
theorem brings_storeIncrement {view : Session η → γ} {v w : γ} {key : StoreKey}
    {value : Option StoreValue}
    (noted : ∀ next, (emit (.storeSet key next) : Act η Unit).Passes view)
    (read : (emit (.storeGet key) : Act η Unit).Passes view)
    (found : ∀ session : Session η, view session = v → session.store.get key = .ok value)
    (placed : ∀ session : Session η, view session = v →
      view { session with store :=
        (session.store.set key (.number (StoreValue.next value))).2 } = w) :
    (attempt (storeIncrement key) : Act η Unit).Brings view v w := by
  have set : (modifyGet fun s : Session η =>
      ((s.store.set key (.number (StoreValue.next value))).1,
        { s with store := (s.store.set key (.number (StoreValue.next value))).2 }) :
        Act η _).Brings view v w :=
    fun session known => ⟨_, _, rfl, placed session known⟩
  refine Takes.attempt_brings (read.bind fun _ => takes_get fun session known => ?_)
  rw [found session known]
  refine (noted _).bind fun _ => set.bind fun result => ?_
  cases result with
  | ok _ => exact takes_pure rfl
  | error e => exact takes_throw rfl

namespace Overlooks

variable {view : Session η → γ} (overlooks : Overlooks view)

include overlooks

/-! ## Primitive actions -/

theorem passes_onHost (f : η → α × η) : (onHost f).Passes view :=
  fun session => ⟨_, _, exec_onHost f session, overlooks.host session _⟩

theorem passes_emit {event : Event} (routine : event.isRoutine = true) :
    (emit event : Act η Unit).Passes view :=
  fun session => ⟨(), _, exec_emit event session, overlooks.trace session routine⟩

theorem passes_onDevice {f : Device → Device} (same : ∀ d, (f d).Resembles d) :
    (onDevice f : Act η Unit).Passes view :=
  fun session => ⟨(), _, exec_onDevice f session, overlooks.device session (same _)⟩

theorem passes_onQueues (f : Queues → Queues) : (onQueues f : Act η Unit).Passes view :=
  overlooks.passes_onDevice fun _ => ⟨rfl, rfl, rfl, rfl⟩

theorem passes_onStats (f : TransferStats → TransferStats) : (onStats f : Act η Unit).Passes view :=
  overlooks.passes_onDevice fun _ => ⟨rfl, rfl, rfl, rfl⟩

theorem passes_recordPipe (pipe : TrackedPipe) (result : Except UsbError α) :
    (recordPipe pipe result : Act η Unit).Passes view :=
  overlooks.passes_onDevice fun _ => ⟨rfl, rfl, rfl, rfl⟩

theorem passes_kickLoop (name : LoopName) : (kickLoop name : Act η Unit).Passes view :=
  overlooks.passes_emit rfl

theorem spares_storeSet {key : StoreKey} {value : StoreValue}
    (unseen : ∀ session : Session η,
      view { session with store := (session.store.set key value).2 } = view session) :
    (storeSet key value : Act η Unit).Spares view := by
  refine (overlooks.passes_emit rfl).spares.seq fun _ => ?_
  refine Spares.seq unseen fun result => ?_
  cases result with
  | ok _ => exact spares_pure _
  | error e => exact spares_throw e

theorem spares_storeIncrement (key : StoreKey)
    (unseen : ∀ (session : Session η) (store : Store),
      view { session with store } = view session) :
    (storeIncrement key : Act η Unit).Spares view := by
  refine (overlooks.passes_emit rfl).spares.seq fun _ => passes_get.spares.seq fun session => ?_
  split
  · exact spares_throw _
  · exact overlooks.spares_storeSet fun session => unseen session _

theorem spares_requestSelfPower (target : DevicePower) :
    (Session.requestSelfPower target : Act η PowerRequestHandle).Spares view := by
  refine passes_device.spares.seq fun d => (spares_orThrow _).seq fun item => ?_
  have kept : (onDevice fun d => { d with pool := item.2 } : Act η Unit).Passes view :=
    overlooks.passes_onDevice fun _ => ⟨rfl, rfl, rfl, rfl⟩
  exact kept.spares.seq fun _ => spares_pure _

theorem passes_cancelRequest (handle : PowerRequestHandle) :
    (Session.cancelRequest handle : Act η Bool).Passes view :=
  fun session => ⟨_, _, rfl, overlooks.device session ⟨rfl, rfl, rfl, rfl⟩⟩

theorem passes_filterRequest (request : PowerRequest) :
    (Session.filterRequest request : Act η PowerDisposition).Passes view :=
  fun session => ⟨_, _, rfl, overlooks.device session ⟨rfl, rfl, rfl, rfl⟩⟩

section Host

variable [Host η]

theorem passes_getDescriptor (kind : DescriptorKind) (index : UInt8) (language : UInt16)
    (length : Nat) : (getDescriptor kind index language length : Act η _).Passes view :=
  (overlooks.passes_emit rfl).seq fun _ => (overlooks.passes_onHost _).seq fun _ => passes_pure _

theorem passes_resetPipe (endpoint : UInt8) : (resetPipe endpoint : Act η _).Passes view :=
  (overlooks.passes_onHost _).seq fun _ => (overlooks.passes_emit rfl).seq fun _ => passes_pure _

theorem passes_controlOut (request : ControlRequest) :
    (controlOut request : Act η _).Passes view :=
  (overlooks.passes_onHost _).seq fun _ => (overlooks.passes_emit rfl).seq fun _ =>
    (overlooks.passes_recordPipe _ _).seq fun _ => passes_pure _

theorem passes_setInterfaceIdle (idle : Bool) :
    (setInterfaceIdle idle : Act η Unit).Passes view := by
  refine passes_device.seq fun d => ?_
  split
  · exact (overlooks.passes_emit rfl).seq fun _ => (overlooks.passes_onHost _).seq fun _ =>
      passes_pure _
  · exact passes_pure _

/-! ## Descriptors -/

theorem spares_readDeviceDescriptor :
    (Session.readDeviceDescriptor : Act η DeviceDescriptor).Spares view := by
  refine (overlooks.passes_getDescriptor _ _ _ _).spares.seq fun _ =>
    (spares_orTransport _).seq fun _ => (spares_orRefuse _).seq fun _ =>
      passes_get.spares.seq fun session => ?_
  split
  · exact spares_pure _
  · exact spares_refuse _

theorem spares_readString (index : UInt8) :
    (Session.readString index : Act η (Option String)).Spares view := by
  unfold Session.readString
  split
  · exact spares_pure _
  · refine (overlooks.passes_getDescriptor _ _ _ _).spares.seq fun result => ?_
    split
    · exact spares_pure _
    · exact spares_pure _

theorem spares_readStrings (descriptor : DeviceDescriptor) :
    (Session.readStrings descriptor : Act η DeviceStrings).Spares view :=
  (overlooks.spares_readString _).seq fun _ => (overlooks.spares_readString _).seq fun _ =>
    (overlooks.spares_readString _).seq fun _ => spares_pure _

theorem spares_readConfigDescriptor (index : UInt8) :
    (Session.readConfigDescriptor index : Act η Bytes).Spares view := by
  refine (overlooks.passes_getDescriptor _ _ _ _).spares.seq fun _ =>
    (spares_orTransport _).seq fun _ => (spares_orRefuse _).seq fun header => ?_
  refine spares_either ?_ fun checked => (spares_refuse _).seq fun _ => checked
  refine (overlooks.passes_getDescriptor _ _ _ _).spares.seq fun _ =>
    (spares_orTransport _).seq fun _ => ?_
  exact spares_either (spares_pure _) fun complete => (spares_refuse _).seq fun _ => complete

theorem takes_enumerate {v w : γ} {post : Except DriverError Unit → γ → Prop}
    (reset : (onDevice Device.resetDescriptorCache : Act η Unit).Brings view v w)
    (failed : ∀ e, post (.error e) w)
    (settled : ∀ descriptor strings,
      (Session.settle descriptor strings : Act η Unit).Takes view w post) :
    (Session.enumerate : Act η Unit).Takes view v post := by
  refine reset.bind fun _ => ?_
  refine overlooks.spares_readDeviceDescriptor.bind (fun descriptor => ?_) failed
  refine (overlooks.spares_readStrings _).bind (fun strings => ?_) failed
  dsimp only
  split
  · have stored (text : String) : (storeSet .serialNumber (.text text) : Act η Unit).Spares view :=
      overlooks.spares_storeSet fun session => overlooks.serial session _
    exact (stored _).attempt.bind fun _ => settled _ _
  · exact settled _ _

/-! ## Pipes and line state -/

theorem spares_resetRole (role : PipeRole) : (Session.resetRole role : Act η Unit).Spares view := by
  refine passes_device.spares.seq fun d => ?_
  split
  · exact spares_pure _
  · exact (overlooks.passes_resetPipe _).spares.seq fun _ =>
      (overlooks.passes_recordPipe _ _).spares.seq fun _ => spares_orTransport _

theorem spares_resetTriple : (Session.resetTriple : Act η Unit).Spares view :=
  (overlooks.spares_resetRole _).seq fun _ => (overlooks.spares_resetRole _).seq fun _ =>
    overlooks.spares_resetRole _

theorem spares_resetWithRetry (retries : Nat) :
    (Session.resetWithRetry retries : Act η Unit).Spares view := by
  induction retries with
  | zero => exact overlooks.spares_resetTriple
  | succ retries ih => exact overlooks.spares_resetTriple.tryCatch fun _ => ih

theorem spares_resetPipes : (Session.resetPipes : Act η Unit).Spares view :=
  overlooks.spares_resetWithRetry _

theorem passes_setLineState (dtr rts : Bool) :
    (Session.setLineState dtr rts : Act η Unit).Passes view := by
  refine passes_device.seq fun d => ?_
  split
  · exact passes_pure _
  · exact (overlooks.passes_controlOut _).discard

theorem passes_setWaitWake (armed : Bool) :
    (Session.setWaitWake armed : Act η Unit).Passes view := by
  have flag : ∀ armed : Bool,
      (onPower fun p => { p with waitWakeArmed := armed } : Act η Unit).Passes view := fun _ =>
    overlooks.passes_onDevice fun _ => ⟨rfl, rfl, rfl, rfl⟩
  refine passes_device.seq fun d => ?_
  split
  · exact passes_pure _
  · split
    · exact passes_pure _
    · refine (overlooks.passes_controlOut _).seq fun result => ?_
      split
      · exact flag _
      · split
        · exact flag _
        · exact passes_pure _

end Host

end Overlooks

namespace OverlooksLoops

variable {view : Session η → γ} (overlooks : OverlooksLoops view) [Host η]

include overlooks

theorem spares_startLoop (name : LoopName) : (startLoop name : Act η Unit).Spares view := by
  have called (ok : Bool) : (emit (.startLoop name ok) : Act η Unit).Spares view :=
    fun session => overlooks.starting session name ok
  refine (overlooks.passes_onHost _).spares.seq fun result => (called _).seq fun _ => ?_
  cases result with
  | error e => exact spares_throw e
  | ok _ =>
      intro session
      rw [exec_modify]
      dsimp only
      split
      · rfl
      · exact overlooks.loops session _

theorem spares_stopLoop (name : LoopName) (tag : StopTag) (wait : Bool) :
    (stopLoop name tag wait : Act η Unit).Spares view := by
  have called (ok : Bool) : (emit (.stopLoop name tag wait ok) : Act η Unit).Spares view :=
    fun session => overlooks.stopping session name tag wait ok
  refine (overlooks.passes_onHost _).spares.seq fun result => (called _).seq fun _ => ?_
  cases result with
  | error e => exact spares_throw e
  | ok _ =>
      intro session
      rw [exec_modify]
      dsimp only
      split
      · exact overlooks.loops session _
      · rfl

theorem passes_stopAll (read write dispatch interrupt : StopTag) :
    (stopAll read write dispatch interrupt : Act η Unit).Passes view :=
  (overlooks.spares_stopLoop _ _ _).attempt.seq fun _ =>
    (overlooks.spares_stopLoop _ _ _).attempt.seq fun _ =>
      (overlooks.spares_stopLoop _ _ _).attempt.seq fun _ =>
        (overlooks.spares_stopLoop _ _ _).attempt

theorem spares_startPipes : (Session.startPipes : Act η Unit).Spares view := by
  have started : (startLoop .interrupt : Act η Unit).Spares view :=
    overlooks.spares_startLoop .interrupt
  refine overlooks.spares_resetPipes.seq fun _ => passes_device.spares.seq fun d => ?_
  dsimp only
  refine spares_either ?_ fun unbroken => (spares_throw _).seq fun _ => unbroken
  split
  · exact (overlooks.passes_controlOut _).discard.spares.seq fun _ => started
  · exact started

theorem spares_bringUp : (Session.bringUp : Act η Unit).Spares view := by
  refine (overlooks.passes_onQueues _).spares.seq fun _ =>
    (overlooks.passes_onStats _).spares.seq fun _ =>
      (overlooks.spares_startLoop _).seq fun _ => passes_device.spares.seq fun d => ?_
  split
  · exact overlooks.spares_startPipes
  · exact spares_pure _

end OverlooksLoops

end ModemLink
