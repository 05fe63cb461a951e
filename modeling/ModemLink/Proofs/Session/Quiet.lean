import ModemLink.Proofs.Session.Routine

/-!
# What leaves the core alone

Routine neither moves the lifecycle, nor touches the power record but for its wait-wake flag, nor
starts or stops a loop. Nor does selecting and releasing interfaces.
-/

namespace ModemLink

open Act

variable {η α : Type}

theorem Event.succeeds_of_isRoutine (event : Event) (routine : event.isRoutine = true) :
    event.isFailedStart = false ∧ event.isFailedStop = false := by
  cases event with
  | startLoop | stopLoop => cases routine
  | _ => exact ⟨rfl, rfl⟩

theorem core_overlooks : Overlooks (Session.core : Session η → Core) where
  host _ _ := rfl
  serial _ _ := rfl
  device session device same := by
    simp only [Session.core, same.mux, same.lifecycle, same.power]
  trace session event routine := by
    obtain ⟨started, stopped⟩ := event.succeeds_of_isRoutine routine
    simp [Session.core, started, stopped]

namespace Act

theorem silent_kickLoop (name : LoopName) : (kickLoop name : Act η Unit).Silent :=
  core_overlooks.passes_kickLoop name

theorem quiet_storeIncrement (key : StoreKey) : (storeIncrement key : Act η Unit).Quiet :=
  core_overlooks.spares_storeIncrement key fun _ _ => rfl

section Host

variable [Host η]

theorem silent_selectConfiguration (value : UInt8) (interfaces : List Selection) :
    (selectConfiguration value interfaces : Act η _).Silent :=
  (silent_onHost _).seq fun _ => (silent_emit rfl rfl).seq fun _ => silent_pure _

theorem silent_releaseInterfaces : (releaseInterfaces : Act η Unit).Silent :=
  (silent_emit rfl rfl).seq fun _ => silent_onHost _

theorem silent_controlOut (request : ControlRequest) : (controlOut request : Act η _).Silent :=
  core_overlooks.passes_controlOut request

theorem silent_setInterfaceIdle (idle : Bool) : (setInterfaceIdle idle : Act η Unit).Silent :=
  core_overlooks.passes_setInterfaceIdle idle

end Host

end Act

namespace Session

theorem quiet_orThrow (result : Except DriverError α) : (orThrow result : Act η α).Quiet :=
  spares_orThrow result

theorem quiet_requestSelfPower (target : DevicePower) :
    (requestSelfPower target : Act η PowerRequestHandle).Quiet :=
  core_overlooks.spares_requestSelfPower target

theorem silent_cancelRequest (handle : PowerRequestHandle) :
    (cancelRequest handle : Act η Bool).Silent :=
  core_overlooks.passes_cancelRequest handle

theorem silent_filterRequest (request : PowerRequest) :
    (filterRequest request : Act η PowerDisposition).Silent :=
  core_overlooks.passes_filterRequest request

variable [Host η]

theorem quiet_configure (index : UInt8) (mux : MuxConfig) :
    (configure index mux : Act η UsbConfiguration).Quiet := by
  refine (core_overlooks.spares_readConfigDescriptor _).seq fun _ => (spares_orRefuse _).seq fun _ =>
    (spares_orThrow _).seq fun _ => (silent_selectConfiguration _ _).quiet.seq fun selected => ?_
  dsimp only
  split
  · exact spares_pure _
  · exact Quiet.seq (Silent.quiet silent_releaseInterfaces) fun _ => spares_throw _

theorem quiet_configureAny (count : UInt8) :
    (configureAny count : Act η UsbConfiguration).Quiet := by
  have first (mux : MuxConfig) (indices : List UInt8) (failure : DriverError) :
      (configureFirst mux indices failure : Act η UsbConfiguration).Quiet := by
    induction indices generalizing failure with
    | nil => exact spares_throw failure
    | cons index rest ih => exact (quiet_configure index mux).tryCatch ih
  exact silent_device.quiet.seq fun _ => first _ _ _

theorem quiet_settle (descriptor : DeviceDescriptor) (strings : DeviceStrings) :
    (settle descriptor strings : Act η Unit).Quiet := by
  refine silent_get.quiet.seq fun _ => ?_
  refine Quiet.seq (Silent.quiet (silent_onDevice fun _ => ⟨rfl, rfl, rfl⟩)) fun _ => ?_
  refine (quiet_configureAny _).seq fun _ => ?_
  exact Silent.quiet (silent_onDevice fun _ => ⟨rfl, rfl, rfl⟩)

theorem quiet_enumerate : (enumerate : Act η Unit).Quiet := by
  refine Quiet.seq (Silent.quiet (silent_onDevice fun _ => ⟨rfl, rfl, rfl⟩)) fun _ => ?_
  refine core_overlooks.spares_readDeviceDescriptor.seq fun descriptor => ?_
  refine (core_overlooks.spares_readStrings _).seq fun strings => ?_
  dsimp only
  split
  · exact (core_overlooks.spares_storeSet fun _ => rfl).attempt.spares.seq fun _ =>
      quiet_settle descriptor strings
  · exact quiet_settle descriptor strings

theorem silent_dropConfiguration : (dropConfiguration : Act η Unit).Silent := by
  refine silent_device.seq fun d => ?_
  split
  · exact Silent.seq silent_releaseInterfaces fun _ => silent_onDevice fun _ => ⟨rfl, rfl, rfl⟩
  · exact silent_pure _

/-! ## Pipes and power -/

theorem quiet_resetRole (role : PipeRole) : (resetRole role : Act η Unit).Quiet :=
  core_overlooks.spares_resetRole role

theorem quiet_resetPipes : (resetPipes : Act η Unit).Quiet := core_overlooks.spares_resetPipes

theorem silent_setLineState (dtr rts : Bool) : (setLineState dtr rts : Act η Unit).Silent :=
  core_overlooks.passes_setLineState dtr rts

theorem silent_setWaitWake (armed : Bool) : (setWaitWake armed : Act η Unit).Silent :=
  core_overlooks.passes_setWaitWake armed

end Session

end ModemLink
