import ModemLink.Proofs.Session.Launch

/-!
# Ordinary operations

Stopping a device, attaching and detaching its client are ordinary: they leave the recorded levels,
the pool of power requests, the suspend flags, remote wakeup and the count of restarts alone. So
does starting a device, but for its level.
-/

namespace ModemLink

open Act

variable {η α : Type}

/-- Neither a wakeup request nor a report of a power level. -/
def Event.isOrdinary : Event → Bool
  | .controlOut request _ => request.wakeup?.isNone
  | .notify (.powerStateChanged _) => false
  | _ => true

/-- What a start and leaving call, and attaching but for raising DTR. -/
def Event.isService : Event → Bool
  | .setIdle _ | .kickLoop _ | .notify (.deviceStarted _) => true
  | .storeGet key => key == .deviceStamp
  | .storeSet key _ => key == .serialNumber || key == .deviceStamp
  | event => event.isLaunch

namespace Footprint

/-- What a launch allows, and what a client needs that comes or goes. -/
def serving (η : Type) [Host η] : Footprint where
  touches
    | .tenancy => True
    | .event event => event.isService = true
    | .store key => key = .serialNumber ∨ key = .deviceStamp
    | change => (launching η).touches change
  fails := (launching η).fails

/-- What attaching a client allows beside: DTR is raised, unless there is a client already. -/
def attaching (η : Type) [Host η] : Footprint where
  touches
    | .event (.controlOut request _) => request.wakeup?.isNone = true
    | change => (serving η).touches change
  fails e := e = .powerPoolExhausted → Host.Exhausts η

def ordinary (η : Type) [Host η] : Footprint where
  touches
    | .pool | .level | .suspension | .waitWake | .system => False
    | .event event => event.isOrdinary = true
    | .store key => key ≠ .ssrCounter
    | _ => True
  fails e := e = .powerPoolExhausted → Host.Exhausts η

variable {η : Type} [Host η]

instance {F : Footprint} [allows : Allows (serving η) F] : Allows (launching η) F where
  fails := allows.fails
  touches change launches := by
    refine allows.touches change ?_
    cases change with
    | event event =>
        cases event with
        | storeSet key value => exact Bool.or_eq_true_iff.mpr (.inl launches)
        | setIdle | kickLoop | notify | storeGet => cases launches
        | _ => exact launches
    | store key => exact .inl launches
    | tenancy => trivial
    | _ => exact launches

instance {F : Footprint} [allows : Allows (attaching η) F] : Allows (serving η) F where
  fails e serves := by
    refine allows.fails e ?_
    rintro rfl
    exact serves rfl
  touches change serves := by
    refine allows.touches change ?_
    cases change with
    | event event =>
        cases event with
        | controlOut => exact ControlRequest.isNone_wakeup?_of_isPlain serves
        | _ => exact serves
    | _ => exact serves

instance : Allows (attaching η) (ordinary η) where
  fails _ := id
  touches change attaches := by
    cases change with
    | event event =>
        cases event with
        | controlOut => exact attaches
        | notify notification =>
            cases notification with
            | powerStateChanged => cases attaches
            | _ => rfl
        | _ => rfl
    | store key =>
        obtain rfl | rfl := attaches
        · nofun
        · nofun
    | pool | level | suspension | waitWake | system => cases attaches
    | _ => trivial

/-- What is ordinary, and a change of the device level. -/
def starting (η : Type) [Host η] : Footprint := (ordinary η).allowing .level

instance : Allows (attaching η) (starting η) :=
  inferInstanceAs (Allows _ ((ordinary η).allowing .level))

end Footprint

open Footprint

namespace Session

variable [Host η] {F : Footprint} [Allows (serving η) F]

theorem within_serviceCall {event : Event} (serves : event.isService = true) :
    (emit event : Act η Unit).Within F :=
  within_emit (allowed (serving η) serves)

theorem within_dropLineState : (setLineState false false : Act η Unit).Within F := by
  refine within_device.seq fun d => ?_
  split
  · exact within_pure _
  · exact (within_controlOut (ControlRequest.isPlain_lineState _ _)).discard

theorem within_setInterfaceIdle (idle : Bool) :
    (setInterfaceIdle idle : Act η Unit).Within F := by
  refine within_device.seq fun d => ?_
  split
  · exact (within_serviceCall rfl).seq fun _ =>
      (within_host fun _ => .setIdle idle).seq fun _ => within_pure _
  · exact within_pure _

/-! ## Starting, attaching and leaving -/

theorem within_start (level : F.touches .level) : (start : Act η Unit).Within F := by
  have sequence : (tryCatch startSequence fun e => do
      rollbackStart
      throw e : Act η Unit).Within F :=
    within_startSequence.tryCatch fun _ fails =>
      within_rollbackStart.seq fun _ => within_throw fails
  have counted : (storeIncrement .deviceStamp : Act η Unit).Within F.lenient :=
    within_storeIncrement (allowed (serving η) rfl) (fun _ => allowed (serving η) rfl)
      (allowed (serving η) (.inr rfl))
  have powered : (onPower fun p => { p with device := .d0 } : Act η Unit).Within F :=
    within_modify fun session => .single (.level session .d0) level
  have present : (startPresent : Act η Unit).Within F :=
    (within_applies .start nofun).seq fun _ => sequence.seq fun _ => powered.seq fun _ =>
      counted.attempt.seq fun _ => within_device.seq fun d => within_serviceCall rfl
  refine within_device.seq fun d => ?_
  split
  · exact within_pure _
  · exact within_throw (tolerated η rfl)
  · exact within_throw (tolerated η rfl)
  · exact present
  · exact present

theorem within_tenancy (f : PowerRecord → PowerRecord)
    (same : ∀ p, ∃ suspendAllowed idleDeadline, f p = { p with suspendAllowed, idleDeadline }) :
    (onPower f : Act η Unit).Within F := by
  refine within_modify fun session => ?_
  obtain ⟨suspendAllowed, idleDeadline, changed⟩ := same session.device.power
  dsimp only
  rw [changed]
  exact .single (.tenancy session suspendAllowed idleDeadline) (allowed (serving η) trivial)

theorem within_cancelIdleTimer : (cancelIdleTimer : Act η Unit).Within F :=
  within_tenancy _ fun p => ⟨p.suspendAllowed, none, rfl⟩

theorem within_restoreSuspendAllowed : (restoreSuspendAllowed : Act η Unit).Within F :=
  within_get.seq fun _ => within_tenancy _ fun p => ⟨_, p.idleDeadline, rfl⟩

theorem within_armIdleTimer : (armIdleTimer : Act η Unit).Within F := by
  refine within_get.seq fun _ => within_get.seq fun _ => ?_
  split
  · exact within_tenancy _ fun p => ⟨p.suspendAllowed, _, rfl⟩
  · exact within_pure _

theorem within_startDataLoops : (startDataLoops : Act η Unit).Within F :=
  (within_startLoop _).seq fun _ => within_startLoop _

/-- The client is served: its loops are started, or it is turned away again. -/
def serve : Act η Unit := do
  Act.onPower fun p => { p with suspendAllowed := false }
  cancelIdleTimer
  Act.setInterfaceIdle false
  Act.onStats fun _ => {}
  Act.onDevice fun d => { d with txPaused := false }
  tryCatch startDataLoops fun e => do
    abandonOpen
    throw e

/-- DTR is pulsed for a client whose loops have started. -/
def pulse : Act η Unit := do
  setLineState false false
  setLineState true true
  cancelIdleTimer

/-- The pipes of the USB function itself are reset for a new client. -/
def resetData : Act η Unit := do
  if (← Act.device).mux.isPrimary then
    resetRole .bulkIn
    resetRole .bulkOut

theorem attach_eq : (attach : Act η Unit) = (do
    resetData
    Act.apply .opened
    serve
    pulse) := by
  unfold attach resetData serve pulse
  simp only [bind_assoc]
  refine bind_congr fun d => ?_
  split
  · simp only [bind_assoc]
  · simp only [pure_bind]

theorem within_resetData : (resetData : Act η Unit).Within F := by
  refine within_device.seq fun d => ?_
  split
  · exact (within_resetRole _).seq fun _ => within_resetRole _
  · exact within_pure _

theorem within_serve : (serve : Act η Unit).Within F := by
  have abandoned : (abandonOpen : Act η Unit).Within F :=
    (within_stopLoop _ _ _).attempt.seq fun _ =>
      (within_applies .closed nofun).lenient.attempt.seq fun _ =>
        (within_setInterfaceIdle _).seq fun _ => within_restoreSuspendAllowed.seq fun _ =>
          within_armIdleTimer
  refine (within_tenancy _ fun p => ⟨false, p.idleDeadline, rfl⟩).seq fun _ =>
    within_cancelIdleTimer.seq fun _ => (within_setInterfaceIdle _).seq fun _ =>
      (within_onStats _ (allowed (launching η) trivial)).seq fun _ => Within.seq ?_ fun _ => ?_
  · exact within_modify fun session => .launch (.details session _ _ _ _ _) trivial
  · exact within_startDataLoops.tryCatch fun _ fails => abandoned.seq fun _ => within_throw fails

theorem within_close : (close : Act η Unit).Within F := by
  refine within_device.seq fun d => ?_
  split
  · exact within_pure _
  refine within_dropLineState.seq fun _ => (within_stopLoop _ _ _).attempt.seq fun _ =>
    (within_stopLoop _ _ _).attempt.seq fun _ => (within_applies .closed nofun).seq fun _ =>
      (within_onQueues _ (allowed (launching η) trivial)).seq fun _ => Within.seq ?_ fun _ => ?_
  · exact within_modify fun session => .launch (.details session _ _ _ _ _) trivial
  · exact (within_setInterfaceIdle _).seq fun _ => within_restoreSuspendAllowed.seq fun _ =>
      within_armIdleTimer

theorem within_stop : (stop : Act η Unit).Within F :=
  within_close.lenient.attempt.seq fun _ => (within_stopAll _ _ _ _).seq fun _ =>
    within_dropConfiguration.seq fun _ => within_cancelIdleTimer.seq fun _ => within_applies .stop nofun

theorem within_surpriseRemove (told : F.touches (.event (.notify .deviceRemoved))) :
    (surpriseRemove : Act η Unit).Within F := by
  refine (within_applies .surpriseRemove nofun).lenient.attempt.seq fun _ =>
    (within_stopAll _ _ _ _).seq fun _ =>
      (within_onQueues _ (allowed (launching η) trivial)).seq fun _ => Within.seq ?_ fun _ =>
        within_cancelIdleTimer.seq fun _ => within_emit told
  exact within_modify fun session => .launch (.enumeration session _ _ none) trivial

theorem within_shutdown : (shutdown : Act η Unit).Within F :=
  within_close.lenient.attempt.seq fun _ => (within_stopAll _ _ _ _).seq fun _ =>
    within_dropConfiguration.seq fun _ => (within_applies .remove nofun).lenient.attempt

/-! ## Sending -/

/-- The end of a send: the frame is queued, and the write loop is woken. -/
def enqueue (channel : Channel) (payload : Bytes) : Act η Unit := do
  let mux := (← Act.device).mux
  let frame ←
    if mux.enabled then
      match Frame.encode mux.channels channel payload with
      | .ok frame => pure frame
      | .error e => throw (.codec e)
    else pure payload
  match channel with
  | .data => Act.onQueues fun q => q.pushWrite frame
  | .control => Act.onQueues fun q => q.pushControl frame
  Act.kickLoop .write

theorem within_enqueue (channel : Channel) (payload : Bytes) :
    (enqueue channel payload : Act η Unit).Within F := by
  have queued (f : Queues → Queues) : (do
      onQueues f
      kickLoop .write : Act η Unit).Within F :=
    (within_onQueues f (allowed (launching η) trivial)).seq fun _ => within_serviceCall rfl
  refine within_device.seq fun d => ?_
  cases channel
  all_goals
    dsimp only
    split
    · split
      · exact (within_pure _).seq fun _ => queued _
      · exact Within.seq (within_throw (tolerated η rfl)) fun frame => queued _
    · exact (within_pure _).seq fun _ => queued _

section Attaching

variable {F : Footprint} [Allows (attaching η) F]

theorem within_setLineState (dtr rts : Bool) :
    (setLineState dtr rts : Act η Unit).Within F := by
  have requested (request : ControlRequest) (silent : request.wakeup?.isNone = true) :
      (controlOut request : Act η _).Within F := by
    have noted (result : Except UsbError Unit) :
        (emit (.controlOut request result) : Act η Unit).Within F :=
      within_emit (allowed (attaching η) silent)
    exact (within_host fun _ => .controlOut request).seq fun _ =>
      (noted _).seq fun _ =>
        (within_recordPipe _ _ (allowed (launching η) trivial)).seq fun _ => within_pure _
  refine within_device.seq fun d => ?_
  split
  · exact within_pure _
  · exact (requested _ rfl).discard

theorem within_attach : (attach : Act η Unit).Within F := by
  have opened : (apply .opened : Act η Unit).Within F :=
    within_apply (allowed (launching η) trivial) fun _ _ refused =>
      excused (attaching η) fun exhausted =>
        absurd exhausted (Lifecycle.ne_exhausted_of_next refused)
  rw [attach_eq]
  exact within_resetData.seq fun _ => opened.seq fun _ => within_serve.seq fun _ =>
    (within_setLineState _ _).seq fun _ => (within_setLineState _ _).seq fun _ =>
      within_cancelIdleTimer

end Attaching

end Session

end ModemLink
