import ModemLink.Proofs.Session.Ordinary
import ModemLink.Proofs.Session.PowerRecord

/-!
# Operations and their parts

A view that overlooks routine, loops and the power record sees nothing of a power transition but a
restart, and of attaching and leaving only the lifecycle events. What these keep of the view, the
operations made of them keep.
-/

namespace ModemLink

open Act

variable {η α γ : Type}

def Notification.isNotice : Notification → Bool
  | deregistration | powerStateChanged _ => true
  | _ => false

/-- What a request for a level does once the level is recorded. -/
def Session.carryOut [Host η] (level : DevicePower) (disposition : PowerDisposition)
    (signal : Option PowerSignal) : Act η Unit := do
  match signal with
  | some .standby => stopDataPath (!(← Act.device).power.system.isAwake) {}
  | some .wakeup => resumeDataPath
  | some .wakeupReset => reinit
  | none =>
      if level.isLow && !(← Act.device).power.system.isAwake then setWaitWake false
  if disposition = .forward then Act.notify (.powerStateChanged level)

structure OverlooksPower (view : Session η → γ) : Prop extends OverlooksLoops view where
  power (session : Session η) (power : PowerRecord) :
    view { session with device := { session.device with power } } = view session
  notices (session : Session η) {notification : Notification}
    (notice : notification.isNotice = true) :
    view { session with trace := session.trace.push (.notify notification) } = view session

namespace OverlooksPower

variable {view : Session η → γ} {holds : γ → Prop} (overlooks : OverlooksPower view)

include overlooks

/-! ## Power records -/

theorem passes_onPower (f : PowerRecord → PowerRecord) : (onPower f : Act η Unit).Passes view :=
  fun session => ⟨(), _, exec_onDevice _ session, overlooks.power session _⟩

theorem passes_notice {notification : Notification} (notice : notification.isNotice = true) :
    (notify notification : Act η Unit).Passes view :=
  fun session => ⟨(), _, exec_notify notification session, overlooks.notices session notice⟩

theorem passes_restoreSuspendAllowed :
    (Session.restoreSuspendAllowed : Act η Unit).Passes view :=
  passes_get.seq fun _ => overlooks.passes_onPower _

theorem passes_armIdleTimer : (Session.armIdleTimer : Act η Unit).Passes view := by
  refine passes_get.seq fun session => passes_get.seq fun _ => ?_
  split
  · exact overlooks.passes_onPower _
  · exact passes_pure ()

theorem spares_recordDevicePower (level : DevicePower) :
    (Session.recordDevicePower level : Act η _).Spares view :=
  passes_device.spares.seq fun _ => (spares_orThrow _).seq fun _ session =>
    overlooks.power session _

theorem spares_setSystemPower (level : SystemPower) :
    (Session.setSystemPower level : Act η Unit).Spares view := by
  refine passes_device.spares.seq fun d => (overlooks.passes_onPower _).spares.seq fun _ => ?_
  split
  · refine (overlooks.passes_onQueues _).spares.seq fun _ => ?_
    split
    · exact (overlooks.passes_notice rfl).spares
    · exact spares_pure _
  · exact spares_pure _

theorem spares_report (disposition : PowerDisposition) (level : DevicePower) :
    (if disposition = .forward then notify (.powerStateChanged level) else pure () :
      Act η Unit).Spares view := by
  split
  · exact (overlooks.passes_notice rfl).spares
  · exact spares_pure _

variable [Host η]

/-- What ends a service that began, or that was to begin. -/
theorem passes_idle : (do
    setInterfaceIdle true
    Session.restoreSuspendAllowed
    Session.armIdleTimer : Act η Unit).Passes view :=
  (overlooks.passes_setInterfaceIdle _).seq fun _ =>
    overlooks.passes_restoreSuspendAllowed.seq fun _ => overlooks.passes_armIdleTimer

theorem spares_startDataLoops : (Session.startDataLoops : Act η Unit).Spares view :=
  (overlooks.spares_startLoop _).seq fun _ => overlooks.spares_startLoop _

theorem spares_resumeDataPath : (Session.resumeDataPath : Act η Unit).Spares view := by
  have disarm : (do
      Session.setWaitWake false
      Session.clearSuspend : Act η Unit).Spares view :=
    (overlooks.passes_setWaitWake _).spares.seq fun _ => (overlooks.passes_onPower _).spares
  refine (overlooks.passes_setInterfaceIdle _).spares.seq fun _ =>
    passes_device.spares.seq fun d => ?_
  dsimp only
  refine spares_either (passes_device.spares.seq fun d => ?_) fun listen =>
    (overlooks.spares_startLoop _).seq fun _ => listen
  exact spares_either disarm fun disarm => overlooks.spares_startDataLoops.seq fun _ =>
    (overlooks.passes_kickLoop _).spares.seq fun _ => disarm

theorem spares_stopDataPath (cancelWaitWake : Bool) (tags : Session.PowerStopTags) :
    (Session.stopDataPath cancelWaitWake tags : Act η Unit).Spares view := by
  have wait (armed : Bool) : (Session.setWaitWake armed : Act η Unit).Spares view :=
    (overlooks.passes_setWaitWake armed).spares
  refine passes_device.spares.seq fun d => ?_
  dsimp only
  split
  · exact spares_pure ()
  refine (overlooks.passes_onPower _).spares.seq fun _ => ?_
  refine spares_among ?_ (fun rest => (wait false).seq fun _ => rest) fun rest =>
    (wait true).seq fun _ => rest
  refine (overlooks.passes_setInterfaceIdle _).spares.seq fun _ => ?_
  refine spares_either ?_ fun rest =>
    (overlooks.passes_setLineState _ _).spares.seq fun _ => rest
  refine (overlooks.spares_stopLoop _ _ _).attempt.spares.seq fun _ =>
    (overlooks.spares_stopLoop _ _ _).attempt.spares.seq fun _ =>
      (overlooks.spares_stopLoop _ _ _).attempt.spares.seq fun _ => ?_
  exact Passes.spares (overlooks.passes_onDevice fun _ => ⟨rfl, rfl, rfl, rfl⟩)

/-! ## Attaching and leaving -/

section Attendance

variable (closed : (apply .closed : Act η Unit).Maintains view holds)

include closed

theorem maintains_close : (Session.close : Act η Unit).Maintains view holds := by
  refine passes_device.spares.before fun d => ?_
  split
  · exact (spares_pure ()).maintains
  · refine (overlooks.passes_setLineState _ _).spares.before fun _ =>
      (overlooks.spares_stopLoop _ _ _).attempt.spares.before fun _ =>
        (overlooks.spares_stopLoop _ _ _).attempt.spares.before fun _ => closed.seq fun _ =>
          (overlooks.passes_onQueues _).spares.before fun _ => ?_
    exact Spares.before (Passes.spares (overlooks.passes_onDevice fun _ => ⟨rfl, rfl, rfl, rfl⟩))
      fun _ => overlooks.passes_idle.spares.maintains

theorem maintains_abandonOpen : (Session.abandonOpen : Act η Unit).Maintains view holds :=
  (overlooks.spares_stopLoop _ _ _).attempt.spares.before fun _ => closed.attempt.seq fun _ =>
    overlooks.passes_idle.spares.maintains

variable (opened : (apply .opened : Act η Unit).Maintains view holds)

include opened

theorem maintains_attach : (Session.attach : Act η Unit).Maintains view holds := by
  refine passes_device.spares.before fun d => ?_
  dsimp only
  refine maintains_either ?_ fun engages => (overlooks.spares_resetRole _).before fun _ =>
    (overlooks.spares_resetRole _).before fun _ => engages
  refine opened.seq fun _ => (overlooks.passes_onPower _).spares.before fun _ =>
    (overlooks.passes_onPower _).spares.before fun _ =>
      (overlooks.passes_setInterfaceIdle _).spares.before fun _ =>
        (overlooks.passes_onStats _).spares.before fun _ => ?_
  refine Spares.before (Passes.spares (overlooks.passes_onDevice fun _ => ⟨rfl, rfl, rfl, rfl⟩))
    fun _ => ?_
  -- The client is there before its loops are, and goes again if one cannot be started.
  refine (Maintains.tryCatch overlooks.spares_startDataLoops.maintains fun e => ?_).seq fun _ => ?_
  · exact (overlooks.maintains_abandonOpen closed).seq fun _ => (spares_throw e).maintains
  · exact (overlooks.passes_setLineState _ _).spares.before fun _ =>
      (overlooks.passes_setLineState _ _).spares.before fun _ =>
        (overlooks.passes_onPower _).spares.maintains

end Attendance

/-! ## Ending -/

section Ends

variable (applies : ∀ event, (apply event : Act η Unit).Maintains view holds)

include applies

theorem maintains_surpriseRemove
    (cleared : (onDevice fun d => { d with configuration := none } : Act η Unit).Spares view)
    (told : (notify .deviceRemoved : Act η Unit).Spares view) :
    (Session.surpriseRemove : Act η Unit).Maintains view holds :=
  (applies .surpriseRemove).attempt.seq fun _ =>
    (overlooks.passes_stopAll _ _ _ _).spares.before fun _ =>
      (overlooks.passes_onQueues _).spares.before fun _ => cleared.before fun _ =>
        (overlooks.passes_onPower _).spares.before fun _ => told.maintains

variable (dropped : (Session.dropConfiguration : Act η Unit).Spares view)

include dropped

theorem maintains_stop : (Session.stop : Act η Unit).Maintains view holds :=
  (overlooks.maintains_close (applies .closed)).attempt.seq fun _ =>
    (overlooks.passes_stopAll _ _ _ _).spares.before fun _ => dropped.before fun _ =>
      (overlooks.passes_onPower _).spares.before fun _ => applies .stop

theorem maintains_shutdown : (Session.shutdown : Act η Unit).Maintains view holds :=
  (overlooks.maintains_close (applies .closed)).attempt.seq fun _ =>
    (overlooks.passes_stopAll _ _ _ _).spares.before fun _ => dropped.before fun _ =>
      (applies .remove).attempt

end Ends

/-! ## Power requests -/

omit [Host η] in
theorem spares_enqueue (channel : Channel) (payload : Bytes) :
    (Session.enqueue channel payload : Act η Unit).Spares view := by
  have queued (f : Queues → Queues) : (do
      onQueues f
      kickLoop .write : Act η Unit).Spares view :=
    (overlooks.passes_onQueues f).spares.seq fun _ => (overlooks.passes_kickLoop _).spares
  refine passes_device.spares.seq fun d => ?_
  cases channel
  all_goals
    dsimp only
    split
    · split
      · exact (spares_pure _).seq fun _ => queued _
      · exact Spares.seq (spares_throw _) fun _ => queued _
    · exact (spares_pure _).seq fun _ => queued _

theorem spares_carryOut {level : DevicePower} {signal : Option PowerSignal}
    (kept : signal ≠ some .wakeupReset) (disposition : PowerDisposition) :
    (Session.carryOut level disposition signal : Act η Unit).Spares view := by
  have reports := overlooks.spares_report disposition level
  cases signal with
  | none =>
      exact passes_device.spares.seq fun d => spares_either reports fun rest =>
        (overlooks.passes_setWaitWake _).spares.seq fun _ => rest
  | some signal => cases signal with
    | standby =>
        exact passes_device.spares.seq fun d => (overlooks.spares_stopDataPath _ _).seq
          fun _ => reports
    | wakeup => exact overlooks.spares_resumeDataPath.seq fun _ => reports
    | wakeupReset => exact absurd rfl kept

omit [Host η] in
/-- Only D0 can find the device without power. -/
theorem takes_recordDevicePower {level : DevicePower} (lower : level ≠ .d0) (v : γ) :
    (Session.recordDevicePower level : Act η _).Takes view v fun result w =>
      (∀ signal, result = .ok signal → signal ≠ some .wakeupReset) ∧ w = v := by
  refine passes_device.bind fun d => (spares_orThrow _).bind (fun _ => ?_) fun e => ⟨nofun, rfl⟩
  rintro session rfl
  refine ⟨?_, overlooks.power session _⟩
  rintro _ ⟨⟩ signal
  exact lower (PowerRecord.signal_wakeupReset signal).1

theorem spares_setDevicePower {level : DevicePower} (lower : level ≠ .d0) :
    (Session.setDevicePower level : Act η Unit).Spares view := by
  refine (overlooks.passes_filterRequest _).spares.seq fun disposition => ?_
  refine spares_iff_takes.mpr fun v => (overlooks.takes_recordDevicePower lower v).andThen ?_ ?_
  · rintro signal _ ⟨kept, rfl⟩
    exact (overlooks.spares_carryOut (kept signal rfl) disposition).takes fun _ => rfl
  · rintro e _ ⟨-, rfl⟩
    rfl

theorem spares_suspendIdle : (Session.suspendIdle : Act η Unit).Spares view := by
  have lowered : (Session.setDevicePower .d2 : Act η Unit).Spares view :=
    overlooks.spares_setDevicePower nofun
  refine (overlooks.passes_onPower _).spares.seq fun _ =>
    (overlooks.passes_onPower _).spares.seq fun _ =>
      (overlooks.spares_requestSelfPower _).seq fun handle => lowered.tryCatch fun e => ?_
  exact (overlooks.passes_cancelRequest handle).discard.spares.seq fun _ =>
    (overlooks.passes_onPower _).spares.seq fun _ => spares_throw e

theorem spares_pollIdle (now : Nat) : (Session.pollIdle now : Act η Bool).Spares view := by
  refine passes_device.spares.seq fun d => ?_
  split
  · exact spares_pure false
  · exact overlooks.spares_suspendIdle.seq fun _ => spares_pure true

section Restart

variable (restarts : (Session.reinit : Act η Unit).Maintains view holds)

include restarts

theorem maintains_setDevicePower (level : DevicePower) :
    (Session.setDevicePower level : Act η Unit).Maintains view holds := by
  refine (overlooks.passes_filterRequest _).spares.before fun disposition =>
    (overlooks.spares_recordDevicePower level).before fun signal => ?_
  by_cases reset : signal = some .wakeupReset
  · subst reset
    exact restarts.seq fun _ => (overlooks.spares_report disposition level).maintains
  · exact (overlooks.spares_carryOut reset disposition).maintains

theorem maintains_handlePower (request : PowerRequest) :
    (Session.handlePower request : Act η Unit).Maintains view holds := by
  cases request with
  | queryDevice level => exact passes_device.spares.before fun d => (spares_orThrow _).maintains
  | querySystem level => exact (spares_pure ()).maintains
  | setSystem level => exact (overlooks.spares_setSystemPower level).maintains
  | setDevice level => exact overlooks.maintains_setDevicePower restarts level

theorem maintains_ensureAwake : (Session.ensureAwake : Act η Unit).Maintains view holds := by
  refine passes_device.spares.before fun d => ?_
  split
  · exact (spares_pure ()).maintains
  · refine (overlooks.spares_requestSelfPower _).before fun handle => ?_
    refine (overlooks.maintains_setDevicePower restarts .d0).tryCatch fun e => ?_
    exact (overlooks.passes_cancelRequest handle).discard.spares.before fun _ =>
      (spares_throw e).maintains

theorem maintains_send (channel : Channel) (payload : Bytes) :
    (Session.send channel payload : Act η Unit).Maintains view holds := by
  refine passes_device.spares.before fun d => ?_
  dsimp only
  refine maintains_either ?_ fun sends => (spares_throw _).before fun _ => sends
  exact (overlooks.maintains_ensureAwake restarts).seq fun _ =>
    (overlooks.spares_enqueue channel payload).maintains

theorem maintains_open (closed : (apply .closed : Act η Unit).Maintains view holds)
    (opened : (apply .opened : Act η Unit).Maintains view holds) :
    (Session.open : Act η Unit).Maintains view holds := by
  refine passes_device.spares.before fun d => ?_
  split
  · exact (spares_throw _).maintains
  · exact (overlooks.maintains_ensureAwake restarts).seq fun _ =>
      overlooks.maintains_attach closed opened
  · exact (spares_throw _).maintains

end Restart

end OverlooksPower

end ModemLink
