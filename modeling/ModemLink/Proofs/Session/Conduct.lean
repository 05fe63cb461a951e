import ModemLink.Proofs.Session.Ordinary
import ModemLink.Proofs.Session.PowerRecord
import ModemLink.Session.Happening
import ModemLink.Session.Schedule

/-!
# Loops and power transitions

A step of a loop makes no change but traffic. A power transition may make any change but one to the
pool of power requests, and reports nothing to the layer above by itself.
-/

namespace ModemLink

open Act Footprint

variable {η α : Type} [Host η]

/-- Payload that comes or goes, and what is told about it. -/
def Event.isTraffic : Event → Bool
  | .bulkIn .. | .bulkOut .. | .interruptIn .. | .notify (.received _) | .notify (.flowControl _)
  | .notify .linkDown => true
  | _ => false

/-- What waking a device without a client calls. -/
def Event.isWaking : Event → Bool
  | .controlOut request _ => !request.raisesDtr
  | .storeGet _ | .storeSet .. => true
  | event => event.isService

/-- What a power transition calls. -/
def Event.isShift : Event → Bool
  | .controlOut .. | .storeGet _ | .storeSet .. => true
  | event => event.isService

namespace Footprint

def traffic : Footprint where
  touches
    | .host | .queues | .details => True
    | .event event => event.isTraffic = true
    | _ => False
  fails _ := False

/-- What a start allows, and the changes of a power transition without a client. -/
def waking (η : Type) [Host η] : Footprint where
  touches
    | .level | .suspension | .waitWake | .store _ => True
    | .event event => event.isWaking = true
    | change => (serving η).touches change
  fails := (serving η).fails

/-- What a client needs, and the changes of a power transition. -/
def shifting (η : Type) [Host η] : Footprint where
  touches
    | .event event => event.isShift = true
    | change => (waking η).touches change
  fails := (attaching η).fails

def unreported (η : Type) [Host η] : Footprint where
  touches
    | .pool => False
    | .event (.notify (.powerStateChanged _)) => False
    | _ => True
  fails e := e = .powerPoolExhausted → Host.Exhausts η

instance {F : Footprint} [allows : Allows (waking η) F] : Allows (serving η) F where
  fails := allows.fails
  touches change serves := by
    refine allows.touches change ?_
    cases change with
    | event event =>
        cases event with
        | controlOut => exact (Bool.and_eq_true_iff.mp serves).2
        | storeGet | storeSet => rfl
        | _ => exact serves
    | level | suspension | waitWake | store => trivial
    | _ => exact serves

section Shifting

variable {F : Footprint} [allows : Allows (shifting η) F]

instance : Allows (waking η) F where
  fails e wakes := by
    refine allows.fails e ?_
    rintro rfl
    exact wakes rfl
  touches change wakes := by
    refine allows.touches change ?_
    cases change with
    | event event =>
        cases event with
        | controlOut => rfl
        | _ => exact wakes
    | _ => exact wakes

instance : Allows (attaching η) F where
  fails := allows.fails
  touches change attaches := by
    refine allows.touches change ?_
    cases change with
    | event event =>
        cases event with
        | controlOut | storeGet | storeSet => rfl
        | _ => exact attaches
    | level | suspension | waitWake | store => trivial
    | _ => exact attaches

end Shifting

instance : Allows (shifting η) (unreported η) where
  fails _ := id
  touches change shifts := by
    cases change with
    | event event =>
        cases event with
        | notify notification =>
            cases notification with
            | powerStateChanged => cases shifts
            | _ => trivial
        | _ => trivial
    | pool => cases shifts
    | _ => trivial

variable {change : Change}

theorem Reaches.shift {F : Footprint} [Allows (waking η) F] {s t : Session η}
    (makes : change.Makes s t) (shifts : (waking η).touches change) : F.Reaches s t :=
  .single makes (allowed (waking η) shifts)

theorem ordinary_of_traffic (allowed : traffic.touches change) : (ordinary η).touches change := by
  cases change with
  | event event =>
      cases event with
      | notify notification =>
          cases notification with
          | powerStateChanged => cases allowed
          | _ => rfl
      | bulkIn | bulkOut | interruptIn => rfl
      | _ => cases allowed
  | host | queues | details => trivial
  | _ => cases allowed

theorem unreported_of_ordinary (allowed : (ordinary η).touches change) :
    (unreported η).touches change := by
  cases change with
  | event event =>
      cases event with
      | notify notification =>
          cases notification with
          | powerStateChanged => cases allowed
          | _ => trivial
      | _ => trivial
  | pool => cases allowed
  | _ => trivial

end Footprint

namespace Session

/-- The end of a request for a device level: the layer above is told, if it was the host's. -/
def report (disposition : PowerDisposition) (level : DevicePower) : Act η Unit :=
  if disposition = .forward then notify (.powerStateChanged level) else pure ()

/-! ## Loops -/

theorem within_loopQueues (f : Queues → Queues) : (onQueues f : Act η Unit).Within traffic :=
  within_onQueues f trivial

theorem within_details (f : Device → Device)
    (same : ∀ d, ∃ pipes stats ioBusy inflightResponses txPaused,
      f d = { d with pipes, stats, ioBusy, inflightResponses, txPaused }) :
    (onDevice f : Act η Unit).Within traffic := by
  refine within_modify fun session => ?_
  obtain ⟨pipes, stats, ioBusy, inflightResponses, txPaused, changed⟩ := same session.device
  rw [changed]
  exact .single (.details session pipes stats ioBusy inflightResponses txPaused) trivial

theorem within_busy (bits : UInt32) :
    (onDevice fun d => d.setBusy bits : Act η Unit).Within traffic :=
  within_details _ fun d => ⟨d.pipes, d.stats, _, d.inflightResponses, d.txPaused, rfl⟩

theorem within_idle (bits : UInt32) :
    (onDevice fun d => d.clearBusy bits : Act η Unit).Within traffic :=
  within_details _ fun d => ⟨d.pipes, d.stats, _, d.inflightResponses, d.txPaused, rfl⟩

theorem within_deliver (payload : Bytes) : (deliver payload : Act η Unit).Within traffic := by
  unfold deliver
  split
  · exact within_pure _
  · exact (within_onStats _ trivial).seq fun _ => within_emit rfl

theorem within_obey (channels : Channels) (message : FlowControl) :
    (obey channels message : Act η Unit).Within traffic := by
  have paused : (onDevice fun d => { d with txPaused := message.command == .pause } :
      Act η Unit).Within traffic :=
    within_details _ fun d => ⟨d.pipes, d.stats, d.ioBusy, d.inflightResponses, _, rfl⟩
  have noted : (notify (.flowControl message.command) : Act η Unit).Within traffic :=
    within_emit rfl
  refine paused.seq fun _ => noted.seq fun _ => ?_
  split
  · split
    · exact within_loopQueues _
    · exact within_pure _
  · exact within_pure _

theorem within_dispatchFrame (mux : MuxConfig) (frame : Bytes) :
    (dispatchFrame mux frame : Act η Unit).Within traffic := by
  have dropped : (recordDrop : Act η Unit).Within traffic := within_onStats _ trivial
  have control : (dispatchControl mux.channels frame : Act η Unit).Within traffic := by
    unfold dispatchControl
    split
    · split
      · exact within_obey _ _
      · exact within_pure _
    all_goals exact dropped
  unfold dispatchFrame
  split
  · exact within_deliver _
  · exact within_deliver _
  · exact within_deliver _
  · split
    · exact control
    · exact dropped
  · exact dropped

theorem within_onNotification (data : Bytes) :
    (onNotification data : Act η Unit).Within traffic := by
  unfold onNotification
  split
  · split
    · split
      · exact within_emit rfl
      · exact within_pure _
    · split
      · exact (within_details _ fun d => ⟨d.pipes, d.stats, d.ioBusy, _, d.txPaused, rfl⟩).seq
          fun _ => within_loopQueues _
      · exact within_pure _
  · exact within_pure _

theorem within_dispatchStep : (dispatchStep : Act η LoopStep).Within traffic := by
  have frames (mux : MuxConfig) (frames : List Bytes) :
      (frames.forM (dispatchFrame mux) : Act η Unit).Within traffic := by
    induction frames with
    | nil => exact within_pure _
    | cons frame frames ih => exact (within_dispatchFrame mux frame).seq fun _ => ih
  refine within_device.seq fun d => ?_
  split
  · exact within_pure _
  · exact (within_loopQueues _).seq fun _ => (within_device.seq fun d => frames d.mux _).seq
      fun _ => within_pure _

theorem within_readStep : (readStep : Act η LoopStep).Within traffic := by
  refine within_get.seq fun session => ?_
  split
  · exact within_pure _
  · have read (endpoint : UInt8) :
        (bulkIn endpoint readBufferLength readTimeout : Act η _).Within traffic :=
      (within_emit rfl).seq fun _ =>
        (within_onHost (fun _ => .bulkIn endpoint _ _) trivial).seq fun _ => within_pure _
    refine (within_busy _).seq fun _ => (read _).seq fun result => (within_idle _).seq fun _ => ?_
    split
    · exact within_pure _
    · exact within_pure _
    · exact (within_recordPipe _ _ trivial).seq fun _ => (within_loopQueues _).seq fun _ =>
        within_pure _
    · exact (within_recordPipe _ _ trivial).seq fun _ => within_pure _

theorem within_transmit (endpoint : UInt8) (frame : Bytes) :
    (transmit endpoint frame : Act η Unit).Within traffic := by
  have written : (bulkOut endpoint frame writeTimeout : Act η _).Within traffic :=
    (within_onHost (fun _ => .bulkOut endpoint frame _) trivial).seq fun _ =>
      (within_emit rfl).seq fun _ => within_pure _
  refine (within_busy _).seq fun _ => written.seq fun result =>
    (within_idle _).seq fun _ => (within_recordPipe _ _ trivial).seq fun _ => ?_
  split
  · exact within_onStats _ trivial
  · exact within_pure _

theorem within_writeStep : (writeStep : Act η LoopStep).Within traffic := by
  refine within_get.seq fun session => ?_
  split
  · exact within_pure _
  refine within_device.seq fun d => ?_
  split
  · exact within_pure _
  · exact (within_loopQueues _).seq fun _ => (within_transmit _ _).seq fun _ => within_pure _

theorem within_interruptStep : (interruptStep : Act η LoopStep).Within traffic := by
  refine within_get.seq fun session => ?_
  split
  · exact within_pure _
  have listened (endpoint : UInt8) :
      (interruptIn endpoint interruptBufferLength interruptTimeout : Act η _).Within traffic :=
    (within_emit rfl).seq fun _ =>
      (within_onHost (fun _ => .interruptIn endpoint _ _) trivial).seq fun _ => within_pure _
  refine (listened _).seq fun result => ?_
  dsimp only
  split
  · exact (within_recordPipe _ _ trivial).seq fun _ => (within_onNotification _).seq fun _ =>
      within_pure _
  · exact within_pure _
  · exact (within_recordPipe _ _ trivial).seq fun _ => within_pure _

theorem within_step (name : LoopName) : (step name : Act η LoopStep).Within traffic := by
  cases name with
  | read => exact within_readStep
  | write => exact within_writeStep
  | dispatch => exact within_dispatchStep
  | interrupt => exact within_interruptStep

theorem within_runLoops [Inbound η] : (runLoops : Act η Unit).Within traffic := by
  have runs (name : LoopName) (n : Nat) : (runLoop name n : Act η Unit).Within traffic := by
    induction n with
    | zero => exact within_pure ()
    | succ n ih =>
        refine within_get.seq fun session => ?_
        split
        · exact within_pure ()
        · refine (within_step name).seq fun outcome => ?_
          cases outcome with
          | busy => exact ih
          | idle => exact within_pure ()
  exact within_get.seq fun _ => (runs _ _).seq fun _ => within_get.seq fun _ =>
    (runs _ _).seq fun _ => within_device.seq fun _ => (runs _ _).seq fun _ =>
      within_device.seq fun _ => runs _ _

/-! ## Power transitions -/

section Shift

variable {F : Footprint} [Allows (waking η) F]

theorem within_power (f : PowerRecord → PowerRecord)
    (same : ∀ p, ∃ powerSuspended idleSuspended lowPowerMode stopped waitWakeArmed,
      f p = { p with powerSuspended, idleSuspended, lowPowerMode, stopped, waitWakeArmed }) :
    (onPower f : Act η Unit).Within F := by
  refine within_modify fun session => ?_
  obtain ⟨powerSuspended, idleSuspended, lowPowerMode, stopped, waitWakeArmed, changed⟩ :=
    same session.device.power
  dsimp only
  rw [changed]
  exact (Footprint.Reaches.shift
    (.suspension session powerSuspended idleSuspended lowPowerMode stopped) trivial).trans
    (.shift (.waitWake _ waitWakeArmed) trivial)

theorem within_setWaitWake (armed : Bool) :
    (setWaitWake armed : Act η Unit).Within F := by
  have flag (armed : Bool) :
      (onPower fun p => { p with waitWakeArmed := armed } : Act η Unit).Within F :=
    within_power _ fun p =>
      ⟨p.powerSuspended, p.idleSuspended, p.lowPowerMode, p.stopped, armed, rfl⟩
  have noted (result : Except UsbError Unit) :
      (emit (.controlOut (.remoteWakeup armed) result) : Act η Unit).Within F :=
    within_emit (allowed (waking η) (by cases armed <;> rfl))
  have requested : (controlOut (.remoteWakeup armed) : Act η _).Within F :=
    (within_host fun _ => .controlOut _).seq fun _ =>
      (noted _).seq fun _ =>
        (within_recordPipe _ _ (allowed (launching η) trivial)).seq fun _ => within_pure _
  refine within_device.seq fun d => ?_
  split
  · exact within_pure _
  · split
    · exact within_pure _
    · refine requested.seq fun result => ?_
      split
      · exact flag _
      · split
        · exact flag _
        · exact within_pure _

theorem within_stopDataPath (cancelWaitWake : Bool) (tags : PowerStopTags) :
    (stopDataPath cancelWaitWake tags : Act η Unit).Within F := by
  refine within_device.seq fun d => ?_
  dsimp only
  split
  · exact within_pure _
  refine Within.seq (within_power _ fun p =>
    ⟨true, p.idleSuspended, true, p.stopped, p.waitWakeArmed, rfl⟩) fun _ => ?_
  refine within_among ?_ (fun rest => (within_setWaitWake _).seq fun _ => rest) fun rest =>
    (within_setWaitWake _).seq fun _ => rest
  refine (within_setInterfaceIdle _).seq fun _ => within_either ?_ fun rest =>
    within_dropLineState.seq fun _ => rest
  refine (within_stopLoop _ _ _).attempt.seq fun _ =>
    (within_stopLoop _ _ _).attempt.seq fun _ =>
      (within_stopLoop _ _ _).attempt.seq fun _ => ?_
  exact within_modify fun session => .launch (.details session _ _ _ _ _) trivial

theorem within_clearSuspend : (clearSuspend : Act η Unit).Within F :=
  within_power _ fun p => ⟨false, false, false, p.stopped, false, rfl⟩

theorem within_resumeDataPath : (resumeDataPath : Act η Unit).Within F := by
  have disarmed : (do
      setWaitWake false
      clearSuspend : Act η Unit).Within F :=
    (within_setWaitWake _).seq fun _ => within_clearSuspend
  refine (within_setInterfaceIdle _).seq fun _ => within_device.seq fun d => ?_
  refine within_either (within_device.seq fun d => ?_) fun rest =>
    (within_startLoop _).seq fun _ => rest
  refine within_either disarmed fun rest => Within.seq ?_ fun _ => Within.seq ?_ fun _ => rest
  · exact within_startDataLoops
  · exact within_serviceCall rfl

/-- The way from a device whose loops were stopped to a started one, and on with `tail`. -/
theorem within_restart {tail : Act η Unit} (goesOn : tail.Within F) : (do
    releaseInterfaces
    apply .stop
    clearSuspend
    attempt (storeIncrement .ssrCounter)
    start
    tail : Act η Unit).Within F := by
  have counted : (storeIncrement .ssrCounter : Act η Unit).Within F.lenient :=
    within_storeIncrement (allowed (waking η) rfl) (fun _ => allowed (waking η) rfl)
      (allowed (waking η) trivial)
  exact within_releaseInterfaces.seq fun _ => (within_applies .stop nofun).seq fun _ =>
    within_clearSuspend.seq fun _ => counted.attempt.seq fun _ =>
      (within_start (allowed (waking η) trivial)).seq fun _ => goesOn

theorem within_recordDevicePower (level : DevicePower) :
    (recordDevicePower level : Act η (Option PowerSignal)).Within F := by
  refine within_device.seq fun d => ?_
  refine (within_orThrow fun e vetoed =>
    tolerated η (Device.isReserved_of_checkVeto vetoed)).seq fun _ session => ⟨?_, nofun⟩
  change F.Reaches session
    { session with device.power := (session.device.power.setDevice level).2 }
  rw [PowerRecord.setDevice_frame]
  exact (Footprint.Reaches.shift (.level session level) trivial).trans
    (.shift (.suspension _ session.device.power.powerSuspended _
      session.device.power.lowPowerMode _) trivial)

theorem within_setSystemPower (level : SystemPower) (system : F.touches .system)
    (told : F.touches (.event (.notify .deregistration))) :
    (setSystemPower level : Act η Unit).Within F := by
  have recorded : (onPower fun p => p.setSystem level : Act η Unit).Within F := by
    refine within_modify fun session => ?_
    dsimp only
    rw [PowerRecord.setSystem_frame]
    exact .single (.system session level _ _) system
  refine within_device.seq fun d => recorded.seq fun _ => ?_
  split
  · refine (within_onQueues _ (allowed (launching η) trivial)).seq fun _ => ?_
    split
    · exact within_emit told
    · exact within_pure _
  · exact within_pure _

end Shift

theorem within_reinit {F : Footprint} [Allows (shifting η) F] :
    (reinit : Act η Unit).Within F := by
  refine within_device.seq fun d => (within_stopAll _ _ _ _).seq fun _ =>
    within_either (within_restart ?_) fun rest => (within_applies .closed nofun).seq fun _ => rest
  split
  · exact within_attach
  · exact within_pure _

/-! ## Happenings -/

theorem reaches_transfers (session : Session η) (busy : UInt32) :
    traffic.Reaches session (session.next (.transfers busy)) :=
  .single (.details session _ _ busy _ _) trivial

theorem reaches_loop (session : Session η) (name : LoopName) :
    traffic.Reaches session (session.next (.loop name)) :=
  (within_step name session).1

section View

variable {γ : Type} {view : Session η → γ} (misses : traffic.Misses view)

include misses

/-- Only an operation changes a view that the traffic misses. -/
theorem next_of_misses (session : Session η) (happening : Happening) :
    view (session.next happening) = view session ∨
      ∃ operation, happening = .operation operation := by
  cases happening with
  | operation operation => exact .inr ⟨operation, rfl⟩
  | loop name => exact .inl (misses.reaches (reaches_loop session name))
  | transfers busy => exact .inl (misses.reaches (reaches_transfers session busy))

/-- What every operation of a run keeps in such a view holds after the run. -/
theorem through_maintains {holds : γ → Prop} (session : Session η) (happenings : List Happening)
    (maintains : ∀ operation, .operation operation ∈ happenings →
      (operation.perform : Act η Unit).Maintains view holds)
    (initially : holds (view session)) : holds (view (session.through happenings)) := by
  induction happenings generalizing session with
  | nil => exact initially
  | cons happening happenings ih =>
      have after : holds (view (session.next happening)) := by
        obtain same | ⟨operation, rfl⟩ := next_of_misses misses session happening
        · rwa [same]
        · exact maintains operation List.mem_cons_self _ initially session rfl
      exact ih _ (fun later member => maintains later (List.mem_cons_of_mem _ member)) after

end View

theorem along_evades_never (session : Session η) (happenings : List Happening) :
    session.along (fun _ happening => happening.evades fun _ => false) happenings = true := by
  induction happenings generalizing session with
  | nil => rfl
  | cons happening happenings ih =>
      have evades : (happening.evades fun _ => false) = true := by cases happening <;> rfl
      rw [along, evades, Bool.true_and]
      exact ih _

/-- What every happening that passes the test preserves holds all along a run that passes it. -/
theorem through_invariant {Invariant : Session η → Prop} {test : Session η → Happening → Bool}
    (next : ∀ session happening, Invariant session → test session happening = true →
      Invariant (session.next happening))
    (session : Session η) (happenings : List Happening) (initially : Invariant session)
    (passes : session.along test happenings = true) : Invariant (session.through happenings) := by
  -- The test is made in the session that each happening finds, hence for every session.
  induction happenings generalizing session with
  | nil => exact initially
  | cons happening happenings ih =>
      obtain ⟨passes, later⟩ := Bool.and_eq_true_iff.mp passes
      exact ih _ (next session happening initially passes) later

end Session

end ModemLink
