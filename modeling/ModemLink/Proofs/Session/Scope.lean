import ModemLink.Proofs.Session.Conduct

/-!
# The scope of an operation

Whatever an operation does, only a system request touches the recorded level of the system and
deregisters the modem, only a removal reports that the device has gone, and the host is reached by
calls to it alone.
-/

namespace ModemLink

open Act Footprint

variable {η α : Type} [Host η]

def Event.isConduct : Event → Bool
  | .notify (.powerStateChanged _) => true
  | event => event.isShift

namespace Footprint

/-- What it takes to wake a device without a client, and the request for it. -/
def requesting (η : Type) [Host η] : Footprint where
  touches
    | .pool | .event (.notify (.powerStateChanged _)) => True
    | change => (waking η).touches change
  fails e := e = .powerPoolExhausted ∨ (waking η).fails e

/-- What a power transition allows, and the requests for it. -/
def operating (η : Type) [Host η] : Footprint where
  touches
    | .pool => True
    | .event event => event.isConduct = true
    | change => (shifting η).touches change
  fails _ := True

/-- Every change there is. -/
def everything : Footprint where
  touches _ := True
  fails _ := True

instance {F : Footprint} [allows : Allows (requesting η) F] : Allows (waking η) F where
  fails e wakes := allows.fails e (.inr wakes)
  touches change wakes := by
    refine allows.touches change ?_
    cases change with
    | event event =>
        cases event with
        | notify notification =>
            cases notification with
            | powerStateChanged => trivial
            | _ => exact wakes
        | _ => exact wakes
    | pool => trivial
    | _ => exact wakes

section Operating

variable {F : Footprint} [allows : Allows (operating η) F]

instance : Allows (shifting η) F where
  fails e _ := allows.fails e trivial
  touches change shifts := by
    refine allows.touches change ?_
    cases change with
    | event event =>
        cases event with
        | notify notification =>
            cases notification with
            | powerStateChanged => rfl
            | _ => exact shifts
        | _ => exact shifts
    | pool => trivial
    | _ => exact shifts

instance : Allows (requesting η) F where
  fails e _ := allows.fails e trivial
  touches change requests := by
    refine allows.touches change ?_
    cases change with
    | event event =>
        cases event with
        | notify notification =>
            cases notification with
            | powerStateChanged => rfl
            | _ => exact requests
        | controlOut => rfl
        | _ => exact requests
    | pool => trivial
    | _ => exact requests

end Operating

instance {base : Footprint} : Allows base everything := ⟨fun _ _ => trivial, fun _ _ => trivial⟩

end Footprint

namespace Session

/-! ## Power requests -/

section Requests

variable {F : Footprint} [Allows (requesting η) F] {session : Session η}

theorem within_filterRequest (request : PowerRequest) :
    (filterRequest request : Act η PowerDisposition).Within F :=
  fun session => ⟨.single (.pool session _) (allowed (requesting η) trivial), nofun⟩

theorem within_cancelRequest (handle : PowerRequestHandle) :
    (cancelRequest handle : Act η Bool).Within F :=
  fun session => ⟨.single (.pool session _) (allowed (requesting η) trivial), nofun⟩

theorem within_requestSelfPower (target : DevicePower) :
    (requestSelfPower target : Act η PowerRequestHandle).Within F := by
  have filed (pool : RequestPool) : (onDevice fun d => { d with pool } : Act η Unit).Within F :=
    within_modify fun session => .single (.pool session pool) (allowed (requesting η) trivial)
  refine within_device.seq fun d => Within.seq ?_ fun item => (filed _).seq fun _ => within_pure _
  refine within_orThrow fun e exhausted => excused (requesting η) (.inl ?_)
  unfold RequestPool.push at exhausted
  split at exhausted <;> cases exhausted
  rfl

theorem within_report (disposition : PowerDisposition) (level : DevicePower) :
    (report disposition level : Act η Unit).Within F := by
  unfold report
  split
  · exact within_emit (allowed (requesting η) trivial)
  · exact within_pure _

/-- A power transition asks for what it takes to start the device anew, and no more. -/
theorem withinAt_setDevicePower (level : DevicePower)
    (renews : ∀ s : Session η, s.device.lifecycle = session.device.lifecycle →
      (reinit : Act η Unit).WithinAt F s) :
    (setDevicePower level : Act η Unit).WithinAt F session := by
  have filtered : (filterRequest (.setDevice level) : Act η _).Spares fun s => s.device.lifecycle :=
    fun _ => rfl
  have recorded : (recordDevicePower level : Act η _).Spares fun s => s.device.lifecycle :=
    passes_device.spares.seq fun _ => (spares_orThrow _).seq fun _ _ => rfl
  refine (within_filterRequest _).seqAt filtered fun disposition asked same => ?_
  refine (within_recordDevicePower _).seqAt recorded fun signal noted same' => ?_
  have reported := within_report (η := η) (F := F) disposition level
  cases signal with
  | none =>
      refine Within.here (within_device.seq fun d => within_either reported fun reported => ?_)
      exact (within_setWaitWake _).seq fun _ => reported
  | some signal =>
      cases signal with
      | standby =>
          refine Within.here (within_device.seq fun d => ?_)
          exact (within_stopDataPath _ _).seq fun _ => reported
      | wakeup => exact Within.here (within_resumeDataPath.seq fun _ => reported)
      | wakeupReset =>
          exact (renews noted (same'.trans same)).seq fun _ _ _ => reported.here

theorem withinAt_ensureAwake (renews : ∀ s : Session η,
      s.device.lifecycle = session.device.lifecycle →
      (reinit : Act η Unit).WithinAt F s) :
    (ensureAwake : Act η Unit).WithinAt F session := by
  have requested : (requestSelfPower .d0 : Act η _).Spares fun s => s.device.lifecycle :=
    passes_device.spares.seq fun _ => (spares_orThrow _).seq fun _ _ => rfl
  refine withinAt_device ?_
  split
  · exact (within_pure _).here
  refine (within_requestSelfPower _).seqAt requested fun handle asked same => ?_
  have woken : (setDevicePower .d0 : Act η Unit).WithinAt F asked :=
    withinAt_setDevicePower .d0 fun s same' => renews s (same'.trans same)
  exact woken.tryCatch fun e fails =>
    (within_cancelRequest handle).discard.seq fun _ => within_throw fails

end Requests

variable {F : Footprint} [Allows (operating η) F]

theorem within_fails (e : DriverError) : (throw e : Act η α).Within F :=
  within_throw (excused (operating η) trivial)

theorem within_setDevicePower (level : DevicePower) :
    (setDevicePower level : Act η Unit).Within F :=
  fun _ => withinAt_setDevicePower level fun _ _ => within_reinit.here

theorem within_ensureAwake : (ensureAwake : Act η Unit).Within F :=
  fun _ => withinAt_ensureAwake fun _ _ => within_reinit.here

theorem within_open : («open» : Act η Unit).Within F := by
  refine within_device.seq fun d => ?_
  split
  · exact within_fails _
  · exact within_ensureAwake.seq fun _ => within_attach
  · exact within_fails _

theorem within_send (channel : Channel) (payload : Bytes) :
    (send channel payload : Act η Unit).Within F := by
  refine within_device.seq fun d => within_either ?_ fun rest => (within_fails _).seq fun _ => rest
  exact within_ensureAwake.seq fun _ => within_enqueue channel payload

theorem within_suspendIdle : (suspendIdle : Act η Unit).Within F := by
  have idling (idle : Bool) :
      (onPower fun p => { p with idleSuspended := idle } : Act η Unit).Within F :=
    within_power _ fun p =>
      ⟨p.powerSuspended, idle, p.lowPowerMode, p.stopped, p.waitWakeArmed, rfl⟩
  refine within_cancelIdleTimer.seq fun _ => (idling true).seq fun _ =>
    (within_requestSelfPower _).seq fun handle => ?_
  exact (within_setDevicePower _).tryCatch fun e _ => (within_cancelRequest handle).discard.seq
    fun _ => (idling false).seq fun _ => within_fails e

theorem within_pollIdle (now : Nat) : (pollIdle now : Act η Bool).Within F := by
  refine within_device.seq fun d => ?_
  split
  · exact within_pure _
  · exact within_suspendIdle.seq fun _ => within_pure _

theorem within_checkHealth : (checkHealth : Act η Unit).Within F := by
  refine within_device.seq fun d => ?_
  split
  · exact within_fails _
  · exact within_pure ()

/-! ## Operations -/

/-- Every operation stays within what a power transition and its request allow, but for two. -/
theorem within_perform (operation : Operation)
    (removal : operation = .surpriseRemove → F.touches (.event (.notify .deviceRemoved)))
    (request : ∀ level, operation = .power (.setSystem level) →
      F.touches .system ∧ F.touches (.event (.notify .deregistration))) :
    (operation.perform : Act η Unit).Within F := by
  cases operation with
  | start => exact within_start (allowed (shifting η) trivial)
  | «open» => exact within_open
  | close => exact within_close
  | stop => exact within_stop
  | surpriseRemove => exact within_surpriseRemove (removal rfl)
  | shutdown => exact within_shutdown
  | send channel payload => exact within_send channel payload
  | pollIdle now => exact (within_pollIdle now).discard
  | power request' =>
      cases request' with
      | queryDevice level =>
          exact within_device.seq fun d =>
            within_orThrow fun _ _ => excused (operating η) trivial
      | querySystem level => exact within_pure ()
      | setSystem level => exact within_setSystemPower level (request _ rfl).1 (request _ rfl).2
      | setDevice level => exact within_setDevicePower level

/-- Nothing leads back to the absent state. -/
theorem next_arrived {session : Session η} (happening : Happening)
    (arrived : session.device.lifecycle ≠ .absent) :
    (session.next happening).device.lifecycle ≠ .absent := by
  cases happening with
  | operation operation =>
      have within : (operation.perform : Act η Unit).Within everything :=
        within_perform operation (fun _ => trivial) fun _ _ => ⟨trivial, trivial⟩
      exact (within session).1.arrived arrived
  | loop name => exact (reaches_loop session name).arrived arrived
  | transfers busy => exact (reaches_transfers session busy).arrived arrived

end Session

end ModemLink
