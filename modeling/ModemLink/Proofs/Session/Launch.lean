import ModemLink.Proofs.Session.Footprint
import ModemLink.Proofs.Session.Routine

/-!
# Launches

Until a start is through it reads descriptors, selects and releases interfaces, resets pipes, starts
loops and, if it fails, stops them again. It stays within every footprint that allows for that.
-/

namespace ModemLink

open Act

variable {η α : Type}

/-- A request that sets or clears the remote-wakeup feature of the device; is it set? -/
def ControlRequest.wakeup? (request : ControlRequest) : Option Bool :=
  if request.type = 0x00 ∧ request.value = wakeupFeature then
    if request.request = setFeature then some true
    else if request.request = clearFeature then some false
    else none
  else none

@[simp] theorem ControlRequest.wakeup?_remoteWakeup (enable : Bool) :
    (remoteWakeup enable).wakeup? = some enable := by
  cases enable <;> rfl

@[simp] theorem ControlRequest.dtr?_lineState (interface : UInt8) (dtr rts : Bool) :
    (lineState interface dtr rts).dtr? = some dtr := by
  have bit : (((if dtr then 1 else 0) ||| (if rts then 2 else 0) : UInt16) &&& 1 != 0) = dtr := by
    cases dtr <;> cases rts <;> decide
  simp only [dtr?, lineState, if_true, bit]

def ControlRequest.raisesDtr (request : ControlRequest) : Bool := request.dtr? == some true

/-- A request that neither raises DTR nor has to do with remote wakeup. -/
def ControlRequest.isPlain (request : ControlRequest) : Bool :=
  request.wakeup?.isNone && !request.raisesDtr

theorem ControlRequest.isNone_wakeup?_of_isPlain {request : ControlRequest}
    (plain : request.isPlain = true) : request.wakeup?.isNone = true :=
  (Bool.and_eq_true_iff.mp plain).1

theorem ControlRequest.isPlain_lineState (interface : UInt8) (rts : Bool) :
    (lineState interface false rts).isPlain = true := by
  rw [isPlain, raisesDtr, dtr?_lineState]
  rfl

/-- What a start that is not through calls. -/
def Event.isLaunch : Event → Bool
  | .getDescriptor .. | .selectConfiguration .. | .releaseInterfaces | .resetPipe ..
  | .startLoop .. | .stopLoop .. => true
  | .controlOut request _ => request.isPlain
  | .storeSet key _ => key == .serialNumber
  | _ => false

/-- The pool of requests is exhausted, or there is a client already: a launch finds neither. -/
def DriverError.isReserved : DriverError → Bool
  | .powerPoolExhausted | .deviceBusy => true
  | _ => false

/-- Some host reports this error where it should start a loop. -/
def Host.Misreports (η : Type) [Host η] (e : DriverError) : Prop :=
  ∃ (host : η) (name : LoopName), (Host.startLoop name host).1 = .error e

/-- Some host reports an exhausted pool where it should start a loop. -/
def Host.Exhausts (η : Type) [Host η] : Prop :=
  ∃ (host : η) (name : LoopName), (Host.startLoop name host).1 = .error .powerPoolExhausted

namespace Footprint

def launching (η : Type) [Host η] : Footprint where
  touches
    | .host | .loops | .lifecycle | .enumeration | .queues | .details => True
    | .event event => event.isLaunch = true
    | .store key => key = .serialNumber
    | _ => False
  fails e := e.isReserved = true → Host.Misreports η e

variable (η) [Host η] {F : Footprint}

variable {η} in
theorem Reaches.launch [Allows (launching η) F] {s t : Session η} {change : Change}
    (makes : change.Makes s t) (launches : (launching η).touches change) : F.Reaches s t :=
  .single makes (allowed (launching η) launches)

theorem tolerated [allows : Allows (launching η) F] {e : DriverError}
    (other : e.isReserved = false) : F.fails e :=
  allows.fails e fun reserved => absurd (other.symm.trans reserved) Bool.false_ne_true

end Footprint

open Footprint

/-! ## Errors

Reserved errors are reported by the pool and by the lifecycle of the device alone. -/

theorem InterfacePlan.Draft.isReserved_of_add {draft : Draft} {record : Record} {e : DriverError}
    (refused : draft.add record = .error e) : e.isReserved = false := by
  cases record with
  | vendorFeature guid controlCaps dataCaps =>
      simp only [add] at refused
      split at refused <;> cases refused
  | interface d =>
      simp only [add, addInterface, place] at refused
      split at refused
      · split at refused
        · cases refused
          rfl
        · cases refused
      · split at refused <;> cases refused
  | endpoint | other => cases refused

theorem InterfacePlan.isReserved_of_select {config : Bytes} {e : DriverError}
    (refused : select config = .error e) : e.isReserved = false := by
  have fold (records : List Record) (draft : Draft)
      (refused : records.foldlM Draft.add draft = .error e) : e.isReserved = false := by
    induction records generalizing draft with
    | nil => cases refused
    | cons record records ih =>
        cases added : draft.add record with
        | ok draft => exact ih draft (by simpa [added, bind, Except.bind] using refused)
        | error e' =>
            obtain rfl : e' = e := by simpa [added, bind, Except.bind] using refused
            exact Draft.isReserved_of_add added
  unfold select ofRecords at refused
  cases folded : (Record.ofConfiguration config).foldlM Draft.add {} with
  | error e' =>
      obtain rfl : e' = e := by simpa [folded, bind, Except.bind] using refused
      exact fold _ _ folded
  | ok reached =>
      simp only [folded, bind, Except.bind] at refused
      split at refused
      · cases refused
        rfl
      · cases refused

theorem UsbConfiguration.isReserved_of_build {header : ConfigHeader} {plan : InterfacePlan}
    {pipes : List Pipe} {mux : MuxConfig} {e : DriverError}
    (refused : build header plan pipes mux = .error e) : e.isReserved = false := by
  unfold build at refused
  cases classified : PipeInfo.classify pipes with
  | error e' =>
      obtain rfl : e' = e := by simpa [classified, bind, Except.bind] using refused
      unfold PipeInfo.classify at classified
      split at classified
      · cases classified
        rfl
      · cases classified
  | ok infos =>
      simp only [classified, bind, Except.bind] at refused
      split at refused
      · cases refused
        rfl
      · cases refused

theorem Lifecycle.ne_exhausted_of_next {state : Lifecycle} {event : LifecycleEvent}
    {e : DriverError} (refused : state.next event = .error e) : e ≠ .powerPoolExhausted := by
  unfold Lifecycle.next at refused
  split at refused <;> cases refused <;> nofun

theorem Lifecycle.isReserved_of_next {state : Lifecycle} {event : LifecycleEvent}
    {e : DriverError} (refused : state.next event = .error e)
    (free : event = .opened → state ≠ .started true) : e.isReserved = false := by
  unfold Lifecycle.next at refused
  split at refused <;> cases refused
  · exact absurd rfl (free rfl)
  · rfl

theorem Device.isReserved_of_checkVeto {d : Device} {level : DevicePower} {e : DriverError}
    (vetoed : d.checkVeto level = .error e) : e.isReserved = false := by
  unfold checkVeto at vetoed
  split at vetoed
  · split at vetoed
    · cases vetoed
      rfl
    · cases vetoed
  · cases vetoed

/-! ## Reading and configuring -/

variable {F : Footprint}

theorem Act.within_orThrow [Host η] {result : Except DriverError α}
    (fails : ∀ e, result = .error e → F.fails e) :
    (Session.orThrow result : Act η α).Within F := by
  cases result with
  | ok a => exact within_pure a
  | error e => exact within_throw (fails e rfl)

namespace Session

variable [Host η] [Allows (launching η) F]

theorem within_call {event : Event} (launches : event.isLaunch = true) :
    (emit event : Act η Unit).Within F :=
  within_emit (allowed (launching η) launches)

theorem within_host {f : η → α × η} (called : ∀ host, Host.Called host (f host).2) :
    (onHost f).Within F :=
  within_onHost called (allowed (launching η) trivial)

theorem within_orTransport (result : Except UsbError α) :
    (orTransport result : Act η α).Within F := by
  cases result with
  | ok a => exact within_pure a
  | error e => exact within_throw (tolerated η rfl)

theorem within_refuse (fault : DescriptorFault) :
    (refuse fault : Act η α).Within F :=
  within_throw (tolerated η rfl)

theorem within_orRefuse (result : Except DescriptorFault α) :
    (orRefuse result : Act η α).Within F := by
  cases result with
  | ok a => exact within_pure a
  | error fault => exact within_refuse fault

theorem within_getDescriptor (kind : DescriptorKind) (index : UInt8) (language : UInt16)
    (length : Nat) : (getDescriptor kind index language length : Act η _).Within F :=
  (within_call rfl).seq fun _ =>
    (within_host fun _ => .getDescriptor kind index language length).seq fun _ => within_pure _

theorem within_readDeviceDescriptor :
    (readDeviceDescriptor : Act η DeviceDescriptor).Within F := by
  refine (within_getDescriptor _ _ _ _).seq fun _ => (within_orTransport _).seq fun _ =>
    (within_orRefuse _).seq fun _ => within_get.seq fun session => ?_
  split
  · exact within_pure _
  · exact within_refuse _

theorem within_readString (index : UInt8) :
    (readString index : Act η (Option String)).Within F := by
  unfold readString
  split
  · exact within_pure _
  · refine (within_getDescriptor _ _ _ _).seq fun result => ?_
    split
    · exact within_pure _
    · exact within_pure _

theorem within_readStrings (descriptor : DeviceDescriptor) :
    (readStrings descriptor : Act η DeviceStrings).Within F :=
  (within_readString _).seq fun _ => (within_readString _).seq fun _ =>
    (within_readString _).seq fun _ => within_pure _

theorem within_readConfigDescriptor (index : UInt8) :
    (readConfigDescriptor index : Act η Bytes).Within F := by
  refine (within_getDescriptor _ _ _ _).seq fun _ => (within_orTransport _).seq fun _ =>
    (within_orRefuse _).seq fun header => ?_
  refine within_either ?_ fun checked => (within_refuse _).seq fun _ => checked
  refine (within_getDescriptor _ _ _ _).seq fun _ => (within_orTransport _).seq fun _ => ?_
  exact within_either (within_pure _) fun complete => (within_refuse _).seq fun _ => complete

theorem within_releaseInterfaces : (releaseInterfaces : Act η Unit).Within F :=
  (within_call rfl).seq fun _ =>
    within_host (f := fun host => ((), Host.releaseInterfaces host)) fun _ => .releaseInterfaces

theorem within_configure (index : UInt8) (mux : MuxConfig) :
    (configure index mux : Act η UsbConfiguration).Within F := by
  refine (within_readConfigDescriptor _).seq fun raw => (within_orRefuse _).seq fun header => ?_
  refine (within_orThrow fun e refused =>
    tolerated η (InterfacePlan.isReserved_of_select refused)).seq fun plan => ?_
  have selected : (selectConfiguration header.value plan.selections : Act η _).Within F :=
    (within_host fun _ => .selectConfiguration _ _).seq fun _ =>
      (within_call rfl).seq fun _ => within_pure _
  refine selected.seq fun selected => ?_
  dsimp only
  split <;> rename_i built
  · exact within_pure _
  · refine within_releaseInterfaces.seq fun _ => within_throw (tolerated η ?_)
    cases selected with
    | ok pipes => exact UsbConfiguration.isReserved_of_build built
    | error cause =>
        cases built
        rfl

theorem within_configureAny (count : UInt8) :
    (configureAny count : Act η UsbConfiguration).Within F := by
  have first (mux : MuxConfig) (indices : List UInt8) (failure : DriverError)
      (other : F.fails failure) :
      (configureFirst mux indices failure : Act η _).Within F := by
    induction indices generalizing failure with
    | nil => exact within_throw other
    | cons index rest ih => exact (within_configure index mux).tryCatch ih
  exact within_device.seq fun _ => first _ _ _ (tolerated η rfl)

theorem within_dropConfiguration : (dropConfiguration : Act η Unit).Within F := by
  refine within_device.seq fun d => ?_
  split
  · exact within_releaseInterfaces.seq fun _ =>
      within_modify fun session => .launch (.enumeration session _ _ none) trivial
  · exact within_pure _

theorem within_enumerate : (enumerate : Act η Unit).Within F := by
  have noted (f : Device → Device) (same : ∀ d, ∃ identity pipes configuration,
      f d = { d with identity, pipes, configuration }) :
      (onDevice f : Act η Unit).Within F := by
    refine within_modify fun session => ?_
    obtain ⟨identity, pipes, configuration, found⟩ := same session.device
    rw [found]
    exact .launch (.enumeration session identity pipes configuration) trivial
  refine (noted _ fun d => ⟨_, _, none, rfl⟩).seq fun _ => within_readDeviceDescriptor.seq
    fun descriptor => (within_readStrings _).seq fun strings => ?_
  have settled : (settle descriptor strings : Act η Unit).Within F := by
    refine within_get.seq fun _ => Within.seq (noted _ fun d => ⟨_, d.pipes, d.configuration, rfl⟩)
      fun _ => (within_configureAny _).seq fun config => ?_
    exact noted _ fun d => ⟨_, d.pipes, some config, rfl⟩
  dsimp only
  split
  · have stored (serial : String) :
        (attempt (storeSet .serialNumber (.text serial)) : Act η Unit).Within F :=
      (within_storeSet (allowed (launching η) (by rfl)) (allowed (launching η) rfl)).attempt
    exact (stored _).seq fun _ => settled
  · exact settled

/-! ## Pipes and loops -/

theorem within_controlOut {request : ControlRequest} (plain : request.isPlain = true) :
    (controlOut request : Act η _).Within F := by
  have noted (result : Except UsbError Unit) :
      (emit (.controlOut request result) : Act η Unit).Within F :=
    within_call plain
  exact (within_host fun _ => .controlOut request).seq fun _ => (noted _).seq fun _ =>
    (within_recordPipe _ _ (allowed (launching η) trivial)).seq fun _ => within_pure _

theorem within_resetRole (role : PipeRole) :
    (resetRole role : Act η Unit).Within F := by
  refine within_device.seq fun d => ?_
  split
  · exact within_pure _
  · have reset (endpoint : UInt8) : (resetPipe endpoint : Act η _).Within F :=
      (within_host fun _ => .resetPipe endpoint).seq fun _ => (within_call rfl).seq fun _ =>
        within_pure _
    exact (reset _).seq fun _ =>
      (within_recordPipe _ _ (allowed (launching η) trivial)).seq fun _ => within_orTransport _

theorem within_resetPipes : (resetPipes : Act η Unit).Within F := by
  have triple : (resetTriple : Act η Unit).Within F :=
    (within_resetRole _).seq fun _ => (within_resetRole _).seq fun _ => within_resetRole _
  have retried (retries : Nat) : (resetWithRetry retries : Act η Unit).Within F := by
    induction retries with
    | zero => exact triple
    | succ retries ih => exact triple.tryCatch fun _ _ => ih
  exact retried _

theorem within_startLoop (name : LoopName) :
    (startLoop name : Act η Unit).Within F := by
  intro session
  unfold startLoop
  rw [exec_bind_ok (exec_onHost _ _), exec_bind_ok (exec_emit _ _)]
  have called : F.Reaches session
      { session with
        host := (Host.startLoop name session.host).2
        trace := session.trace.push
          (.startLoop name (Host.startLoop name session.host).1.isOk) } :=
    (Footprint.Reaches.launch (.host session (.startLoop name)) trivial).trans
      (.launch (.event _ _) rfl)
  cases outcome : (Host.startLoop name session.host).1 with
  | error e =>
      rw [outcome] at called
      refine ⟨called, ?_⟩
      rintro _ ⟨⟩
      have launches : (launching η).fails e := fun _ => ⟨session.host, name, outcome⟩
      exact Allows.fails e launches
  | ok _ =>
      rw [outcome] at called
      refine ⟨called.trans ?_, nofun⟩
      simp only [exec_modify]
      split
      · exact .refl _
      · exact .launch (.loops _ _) trivial

theorem within_stopLoop (name : LoopName) (tag : StopTag) (wait : Bool) :
    (stopLoop name tag wait : Act η Unit).Within F.lenient := by
  have noted (ok : Bool) :
      (emit (.stopLoop name tag wait ok) : Act η Unit).Within F.lenient :=
    within_call rfl
  refine (within_host fun _ => .stopLoop name tag wait).seq fun result => (noted _).seq fun _ => ?_
  cases result with
  | error e => exact within_throw trivial
  | ok _ =>
      refine within_modify fun session => ?_
      dsimp only
      split
      · exact .launch (.loops session _) trivial
      · exact .refl _

theorem within_stopAll (read write dispatch interrupt : StopTag) :
    (stopAll read write dispatch interrupt : Act η Unit).Within F :=
  (within_stopLoop _ _ _).attempt.seq fun _ => (within_stopLoop _ _ _).attempt.seq fun _ =>
    (within_stopLoop _ _ _).attempt.seq fun _ => (within_stopLoop _ _ _).attempt

theorem within_applies (event : LifecycleEvent) (other : event ≠ .opened) :
    (apply event : Act η Unit).Within F :=
  within_apply (allowed (launching η) trivial) fun _ _ refused =>
    tolerated η (Lifecycle.isReserved_of_next refused fun same => absurd same other)

/-! ## Starting -/

theorem within_startSequence : (startSequence : Act η Unit).Within F := by
  refine within_enumerate.seq fun _ =>
    (within_onQueues _ (allowed (launching η) trivial)).seq fun _ =>
      (within_onStats _ (allowed (launching η) trivial)).seq fun _ =>
        (within_startLoop _).seq fun _ => within_device.seq fun d => ?_
  split
  · refine within_resetPipes.seq fun _ => within_device.seq fun d => ?_
    dsimp only
    refine within_either ?_ fun starts =>
      (within_throw (tolerated η rfl)).seq fun _ => starts
    split
    · exact (within_controlOut rfl).discard.seq fun _ => within_startLoop _
    · exact within_startLoop _
  · exact within_pure _

theorem within_rollbackStart : (rollbackStart : Act η Unit).Within F :=
  (within_stopAll _ _ _ _).seq fun _ => within_dropConfiguration.seq fun _ =>
    (within_applies .stop nofun).attempt

end Session

end ModemLink
