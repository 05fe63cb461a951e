import Mathlib.Control.Monad.Basic
import ModemLink.Proofs.Session.Conduct
import ModemLink.Proofs.Session.Refinement
import ModemLink.Scripted

/-!
# Remote wakeup

The wait-wake flag stands for the last request that the device was sent: it is set only while the
device is suspended for being idle, and cleared with a request by every other end of a suspend.
-/

namespace ModemLink

open Act Footprint

variable {η α : Type}

/-! ## Requests -/

/-- A remote-wakeup request: does it arm the device, and was it obeyed? -/
def Event.wakeup? : Event → Option (Bool × Bool)
  | .controlOut request result => request.wakeup?.map fun armed => (armed, result.isOk)
  | _ => none

/-- The last remote-wakeup request of the session. -/
def Session.wakeupRequest (session : Session η) : Option (Bool × Bool) :=
  (session.trace.toList.filterMap Event.wakeup?).getLast?

theorem Session.wakeupRequest_push (session : Session η) (event : Event) :
    ({ session with trace := session.trace.push event } : Session η).wakeupRequest =
      event.wakeup?.or session.wakeupRequest := by
  cases requested : event.wakeup? <;> simp [wakeupRequest, requested]

namespace Session

/-- Did the last remote-wakeup request arm the device? -/
def lastWakeup (session : Session η) : Option Bool := session.wakeupRequest.map (·.1)

/-- No request to arm the device failed. -/
def Obeyed (session : Session η) : Prop :=
  session.trace.any (fun event => event.wakeup? == some (true, false)) = false

instance (session : Session η) : Decidable session.Obeyed := inferInstanceAs (Decidable (_ = _))

theorem lastWakeup_armed {session : Session η} (obeyed : session.Obeyed) :
    session.lastWakeup = some true ↔ session.wakeupRequest = some (true, true) := by
  refine ⟨fun last => ?_, fun last => by rw [lastWakeup, last]; rfl⟩
  obtain ⟨⟨armed, ok⟩, requested, rfl⟩ := Option.map_eq_some_iff.mp last
  cases ok with
  | true => exact requested
  | false =>
      obtain ⟨event, member, failed⟩ := List.mem_filterMap.mp (List.mem_of_getLast? requested)
      have found : session.trace.any (fun event => event.wakeup? == some (true, false)) = true := by
        rw [← Array.any_toList]
        exact List.any_eq_true.mpr ⟨event, member, by simp [failed]⟩
      exact absurd (found.symm.trans obeyed) nofun

end Session

structure Wakeup where
  level : DevicePower
  asleep : Bool
  /-- The device was suspended for being idle. -/
  idle : Bool
  armed : Bool
  request : Option (Bool × Bool)

def PowerRecord.wakeup (p : PowerRecord) (request : Option (Bool × Bool)) : Wakeup :=
  ⟨p.device, !p.system.isAwake, p.idleSuspended, p.waitWakeArmed, request⟩

def Wakeup.moved (w : Wakeup) (level : DevicePower) (idle : Bool) : Wakeup :=
  { w with level, idle }

theorem PowerRecord.wakeup_setDevice (p : PowerRecord) (level : DevicePower)
    (request : Option (Bool × Bool)) :
    (p.setDevice level).2.wakeup request = (p.wakeup request).moved level
      (p.idleSuspended && !(p.device != level && level.isLow && !p.system.isAwake)) := by
  simp [wakeup, Wakeup.moved, setDevice_idleSuspended]

theorem PowerRecord.wakeup_setSystem (p : PowerRecord) (level : SystemPower)
    (request : Option (Bool × Bool)) :
    (p.setSystem level).wakeup request =
      { p.wakeup request with asleep := !level.isAwake } := by
  unfold setSystem
  split_ifs <;> rfl

def Session.wakeup (session : Session η) : Wakeup :=
  session.device.power.wakeup session.wakeupRequest

theorem Session.wakeup_push {event : Event} (silent : event.wakeup? = none) (session : Session η) :
    ({ session with trace := session.trace.push event } : Session η).wakeup = session.wakeup := by
  simp [Session.wakeup, wakeupRequest_push, silent]

theorem Event.wakeup?_ordinary {event : Event} (ordinary : event.isOrdinary = true) :
    event.wakeup? = none := by
  cases event with
  | controlOut request result =>
      rw [wakeup?, Option.isNone_iff_eq_none.mp ordinary]
      rfl
  | _ => rfl

theorem ordinary_misses_wakeup [Host η] :
    (ordinary η).Misses (Session.wakeup : Session η → Wakeup) := by
  intro change s t allowed makes
  cases makes with
  | event _ event => exact Session.wakeup_push (Event.wakeup?_ordinary allowed) s
  | pool | level | suspension | waitWake | system => cases allowed
  | _ => rfl

namespace Wakeup

variable {v w : Wakeup}

/-- The device may not signal, and the session knows. -/
structure Unarmed (w : Wakeup) : Prop where
  armed : w.armed = false
  request : w.request ≠ some (true, true)

/-- The device may signal, and the session knows. -/
structure Armed (w : Wakeup) : Prop where
  armed : w.armed = true
  request : w.request = some (true, true)
  idle : w.idle = true
  low : w.level.isLow = true

def Truthful (w : Wakeup) : Prop := w.Unarmed ∨ w.Armed

theorem Unarmed.moved (unarmed : v.Unarmed) (level : DevicePower) (idle : Bool) :
    (v.moved level idle).Unarmed :=
  ⟨unarmed.armed, unarmed.request⟩

theorem Truthful.unarmed_of_high (truthful : v.Truthful) (high : v.level.isLow = false) :
    v.Unarmed :=
  truthful.resolve_right fun armed => absurd (high.symm.trans armed.low) nofun

theorem Truthful.unarmed_of_busy (truthful : v.Truthful) (busy : v.idle = false) : v.Unarmed :=
  truthful.resolve_right fun armed => absurd (busy.symm.trans armed.idle) nofun

theorem Truthful.honest (truthful : v.Truthful) (unarmed : v.armed = false) :
    v.request ≠ some (true, true) :=
  (truthful.resolve_right fun armed => absurd (unarmed.symm.trans armed.armed) nofun).request

theorem Truthful.honest_moved (truthful : v.Truthful) (level : DevicePower) (idle : Bool) :
    (v.moved level idle).armed = false → (v.moved level idle).request ≠ some (true, true) :=
  truthful.honest

end Wakeup

/-- What is ordinary, and all that it takes to start a device anew. -/
def Footprint.restarting (η : Type) [Host η] : Footprint :=
  (starting η).allowing (.store .ssrCounter)

instance [Host η] : (attaching η).Allows (restarting η) :=
  inferInstanceAs (Allows _ ((starting η).allowing _))

theorem Footprint.restarting_misses_signal [Host η] :
    (restarting η).Misses fun session : Session η =>
      (session.device.power.waitWakeArmed, session.wakeupRequest) := by
  refine Misses.allowing (Misses.allowing (fun change s t allowed makes => ?_) ?_) ?_
  · have same := ordinary_misses_wakeup allowed makes
    exact congrArg (fun w : Wakeup => (w.armed, w.request)) same
  · rintro _ _ ⟨⟩
    rfl
  · rintro _ _ ⟨⟩
    rfl

namespace Session

variable {v : Wakeup}

theorem brings_flag (armed : Bool) : (onPower fun p => { p with waitWakeArmed := armed } :
    Act η Unit).Brings wakeup v { v with armed } := by
  rintro session rfl
  exact ⟨(), _, rfl, rfl⟩

theorem brings_clearSuspend : (clearSuspend : Act η Unit).Brings wakeup v
    { v with idle := false, armed := false } := by
  rintro session rfl
  exact ⟨(), _, rfl, rfl⟩

theorem takes_recordDevicePower {level : DevicePower}
    {post : Except DriverError (Option PowerSignal) → Wakeup → Prop}
    (vetoed : ∀ e, post (.error e) v)
    (recorded : ∀ p request, v = PowerRecord.wakeup p request →
      post (.ok (p.setDevice level).1) ((p.setDevice level).2.wakeup request)) :
    (recordDevicePower level : Act η _).Takes wakeup v post := by
  refine takes_device fun session known => ?_
  cases session.device.checkVeto level with
  | error e => exact takes_throw (vetoed e)
  | ok _ =>
      refine Takes.bind (takes_pure ?_)
      rintro session rfl
      exact recorded session.device.power session.wakeupRequest rfl

theorem brings_idle (idle : Bool) : (onPower fun p => { p with idleSuspended := idle } :
    Act η Unit).Brings wakeup v { v with idle } := by
  rintro session rfl
  exact ⟨(), _, rfl, rfl⟩

theorem spares_requestSelfPower (level : DevicePower) :
    (requestSelfPower level : Act η _).Spares wakeup := by
  have pooled (pool : RequestPool) :
      (onDevice fun d => { d with pool } : Act η Unit).Spares wakeup := fun _ => rfl
  exact passes_device.spares.seq fun d => (spares_orThrow _).seq fun item =>
    (pooled item.2).seq fun _ => spares_pure _

theorem passes_cancelRequest (handle : PowerRequestHandle) :
    (discard (cancelRequest handle) : Act η Unit).Passes wakeup :=
  Passes.discard fun _ => ⟨_, _, rfl, rfl⟩

theorem passes_report (disposition : PowerDisposition) (level : DevicePower) :
    (report disposition level : Act η Unit).Passes wakeup := by
  unfold report
  split
  · exact fun session => ⟨(), _, rfl, wakeup_push rfl session⟩
  · exact passes_pure ()

end Session

section Host

variable [Host η] {v : Wakeup} {post : Except DriverError α → Wakeup → Prop}

theorem Act.Within.maintains_unarmed {act : Act η α} (within : act.Within (restarting η)) :
    act.Maintains Session.wakeup Wakeup.Unarmed := by
  rintro _ unarmed session rfl
  injection within.spares restarting_misses_signal session with armed request
  exact ⟨armed.trans unarmed.armed, fun same => unarmed.request (request.symm.trans same)⟩

theorem Act.Within.takes_wakeup {act : Act η α} (within : act.Within (ordinary η))
    (holds : ∀ result, post result v) : act.Takes Session.wakeup v post :=
  (within.spares ordinary_misses_wakeup).takes holds

theorem Act.Within.bind_wakeup {β : Type} {act : Act η α} {next : α → Act η β}
    {later : Except DriverError β → Wakeup → Prop} (within : act.Within (ordinary η))
    (rest : ∀ a, (next a).Takes Session.wakeup v later) (failed : ∀ e, later (.error e) v) :
    (act >>= next).Takes Session.wakeup v later :=
  (within.spares ordinary_misses_wakeup).bind rest failed

theorem Act.Within.passes_wakeup {act : Act η α} (within : act.Within (ordinary η))
    (silent : act.Silent) : act.Passes Session.wakeup := by
  intro session
  obtain ⟨a, after, run, -⟩ := silent session
  have same := within.spares ordinary_misses_wakeup session
  rw [run] at same
  exact ⟨a, after, run, same⟩

namespace Session

/-! ## Arming and disarming -/

theorem takes_requestWakeup (armed : Bool) {post : Except DriverError (Except UsbError Unit) →
      Wakeup → Prop}
    (requested : ∀ outcome : Except UsbError Unit,
      post (.ok outcome) { v with request := some (armed, outcome.isOk) }) :
    (controlOut (.remoteWakeup armed) : Act η _).Takes wakeup v post := by
  have called : (onHost (Host.controlOut (.remoteWakeup armed)) : Act η _).Passes wakeup :=
    fun session => ⟨_, _, rfl, rfl⟩
  have noted (outcome : Except UsbError Unit) :
      (emit (.controlOut (.remoteWakeup armed) outcome) : Act η Unit).Brings wakeup v
        { v with request := some (armed, outcome.isOk) } := by
    rintro session rfl
    refine ⟨(), _, rfl, ?_⟩
    simp [Session.wakeup, PowerRecord.wakeup, wakeupRequest_push, Event.wakeup?]
  have recorded (outcome : Except UsbError Unit) :
      (recordPipe .control outcome : Act η Unit).Passes wakeup := fun session => ⟨_, _, rfl, rfl⟩
  exact called.bind fun outcome => (noted outcome).bind fun _ => (recorded outcome).bind fun _ =>
    takes_pure (requested outcome)

/-- Disarming always succeeds, with a request if there is something to disarm. -/
theorem takes_disarm (honest : v.armed = false → v.request ≠ some (true, true))
    {post : Except DriverError Unit → Wakeup → Prop}
    (disarmed : ∀ request, request ≠ some (true, true) →
      post (.ok ()) { v with armed := false, request }) :
    (setWaitWake false : Act η Unit).Takes wakeup v post := by
  refine takes_device fun session known => ?_
  have flag : session.device.power.waitWakeArmed = v.armed := congrArg Wakeup.armed known
  rw [flag]
  split <;> rename_i unarmed
  · replace unarmed : v.armed = false := by simpa using unarmed
    have same := disarmed v.request (honest unarmed)
    rw [← unarmed] at same
    exact takes_pure same
  · simp only [Bool.false_and, Bool.false_eq_true, if_false]
    refine Takes.bind (takes_requestWakeup false fun outcome => ?_)
    have cleared : (onPower fun p => { p with waitWakeArmed := false } : Act η Unit).Takes wakeup
        { v with request := some (false, outcome.isOk) } post :=
      (brings_flag false).takes fun _ => disarmed _ (by simp)
    cases outcome with
    | ok _ => exact cleared
    | error e => exact cleared

/-- Arming may fail, or find no configuration that offers it; it never fails the session. -/
theorem takes_arm (unarmed : v.Unarmed) {post : Except DriverError Unit → Wakeup → Prop}
    (kept : ∀ request, request ≠ some (true, true) → post (.ok ()) { v with request })
    (armed : post (.ok ()) { v with armed := true, request := some (true, true) }) :
    (setWaitWake true : Act η Unit).Takes wakeup v post := by
  refine takes_device fun session known => ?_
  have flag : session.device.power.waitWakeArmed = false :=
    (congrArg Wakeup.armed known).trans unarmed.armed
  simp only [flag, Bool.false_eq_true, beq_iff_eq, if_false, Bool.true_and]
  split
  · exact takes_pure (kept v.request unarmed.request)
  · refine Takes.bind (takes_requestWakeup true fun outcome => ?_)
    cases outcome with
    | ok _ => exact (brings_flag true).takes fun _ => armed
    | error e => exact takes_pure (kept _ (by simp [Except.isOk, Except.toBool]))

/-! ## Power transitions -/

/-- Only an idle suspend that is not to be cancelled arms the device. -/
theorem takes_stopDataPath (unarmed : v.Unarmed) {cancelWaitWake : Bool} {tags : PowerStopTags}
    {post : Except DriverError Unit → Wakeup → Prop}
    (kept : ∀ request, request ≠ some (true, true) → post (.ok ()) { v with request })
    (armed : cancelWaitWake = false → v.idle = true →
      post (.ok ()) { v with armed := true, request := some (true, true) }) :
    (stopDataPath cancelWaitWake tags : Act η Unit).Takes wakeup v post := by
  have untouched : post (.ok ()) v := kept v.request unarmed.request
  have suspending : (onPower fun p => { p with powerSuspended := true, lowPowerMode := true } :
      Act η Unit).Passes wakeup := fun session => ⟨(), _, rfl, rfl⟩
  have stopped (name : LoopName) (tag : StopTag) (wait : Bool) :
      (attempt (stopLoop name tag wait) : Act η Unit).Passes wakeup := by
    have misses : (ordinary η).lenient.Misses (wakeup : Session η → Wakeup) :=
      ordinary_misses_wakeup
    exact ((within_stopLoop name tag wait).spares misses).attempt
  have unanswered : (onDevice fun d => { d with inflightResponses := 0 } :
      Act η Unit).Passes wakeup := fun session => ⟨(), _, rfl, rfl⟩
  have quieted (power : PowerRecord) : (do
      setInterfaceIdle true
      if dropsDtr power then setLineState false false
      attempt (stopLoop .read tags.read true)
      attempt (stopLoop .write tags.write false)
      attempt (stopLoop .interrupt tags.interrupt true)
      onDevice fun d => { d with inflightResponses := 0 } : Act η Unit).Passes wakeup := by
    refine ((within_setInterfaceIdle true).passes_wakeup
      (silent_setInterfaceIdle true)).seq fun _ => ?_
    have rest := (stopped .read tags.read true).seq fun _ =>
      (stopped .write tags.write false).seq fun _ =>
        (stopped .interrupt tags.interrupt true).seq fun _ => unanswered
    dsimp only
    split
    · exact ((within_setLineState _ _).passes_wakeup (silent_setLineState _ _)).seq fun _ => rest
    · exact rest
  refine takes_device fun session known => ?_
  have suspended : session.device.power.idleSuspended = v.idle := congrArg Wakeup.idle known
  dsimp only
  split
  · exact takes_pure untouched
  refine suspending.bind fun _ => ?_
  have finished {w : Wakeup} (reached : post (.ok ()) w) := (quieted session.device.power).takes
    (v := w) fun _ => reached
  split
  · refine Takes.bind (takes_disarm (fun _ => unarmed.request) fun request plain => finished ?_)
    rw [← unarmed.armed]
    exact kept request plain
  · rename_i keeps
    split
    · rename_i idle
      exact Takes.bind (takes_arm unarmed (fun request plain => finished (kept request plain))
        (finished (armed (by simpa using keeps) (suspended.symm.trans idle))))
    · exact finished untouched

theorem takes_resumeDataPath (honest : v.armed = false → v.request ≠ some (true, true)) :
    (resumeDataPath : Act η Unit).Takes wakeup v fun result w => match result with
      | .ok _ => w.Unarmed
      | .error _ => w = v := by
  have disarmed : (do
      setWaitWake false
      clearSuspend : Act η Unit).Takes wakeup v fun result w => match result with
        | .ok _ => w.Unarmed
        | .error _ => w = v := by
    refine Takes.bind (takes_disarm honest fun request plain => ?_)
    exact brings_clearSuspend.takes fun _ => ⟨rfl, plain⟩
  have kicked : (kickLoop .write : Act η Unit).Within (ordinary η) := within_emit rfl
  refine (within_setInterfaceIdle false).bind_wakeup (fun _ => ?_) fun _ => rfl
  refine within_device.bind_wakeup (fun d => takes_either ?_ fun rest => ?_) fun _ => rfl
  · refine within_device.bind_wakeup (fun d => takes_either disarmed fun rest => ?_) fun _ => rfl
    exact within_startDataLoops.bind_wakeup (fun _ => kicked.bind_wakeup (fun _ => rest)
      fun _ => rfl) fun _ => rfl
  · exact (within_startLoop .interrupt).bind_wakeup (fun _ => rest) fun _ => rfl

/-- A device that is not armed is not armed by a restart either. -/
theorem reinit_maintains_unarmed :
    (reinit : Act η Unit).Maintains wakeup Wakeup.Unarmed := by
  have ordinarily {act : Act η Unit} (within : act.Within (ordinary η)) :
      act.Maintains wakeup Wakeup.Unarmed :=
    ((within.allowing _).allowing _).maintains_unarmed
  have cleared : (clearSuspend : Act η Unit).Maintains wakeup Wakeup.Unarmed :=
    fun v unarmed => brings_clearSuspend.takes fun _ => ⟨rfl, unarmed.request⟩
  have counted : (attempt (storeIncrement .ssrCounter) : Act η Unit).Within (restarting η) :=
    (within_storeIncrement (F := restarting η) (Or.inr (Or.inr rfl))
      (fun _ => Or.inr (Or.inr rfl)) (Or.inl rfl)).attempt
  have started : (start : Act η Unit).Within (restarting η) := within_start (Or.inr (Or.inl rfl))
  refine passes_device.spares.before fun d => (ordinarily (within_stopAll _ _ _ _)).seq fun _ =>
    maintains_either ?_ fun rest => (ordinarily (within_applies .closed nofun)).seq fun _ => rest
  refine (ordinarily within_releaseInterfaces).seq fun _ => (ordinarily (within_applies .stop nofun)).seq
    fun _ => cleared.seq fun _ => counted.maintains_unarmed.seq fun _ =>
      started.maintains_unarmed.seq fun _ => ?_
  split
  · exact ordinarily within_attach
  · exact ordinarily (within_pure ())

/-- After an action that may wake the device. One that fails may have left it awake and armed. -/
def Ends : Except DriverError α → Wakeup → Prop
  | .ok _, w => w.Truthful
  | .error _, w => w.Truthful ∨ w.armed = true ∧ w.level.isLow = false

theorem Ends.of_truthful {w : Wakeup} (truthful : w.Truthful) (result : Except DriverError α) :
    Ends result w := by
  cases result with
  | ok _ => exact truthful
  | error e => exact .inl truthful

/-- After a request for a device level. Neither an awake nor a sleeping device is armed. -/
structure Answers (v : Wakeup) (level : DevicePower) (result : Except DriverError Unit)
    (w : Wakeup) : Prop where
  ends : Ends result w
  failed : result.isOk = false → v.Unarmed → w.Unarmed
  disarmed : result.isOk = true → level = .d0 ∨ level.isLow = true ∧ v.asleep = true → w.Unarmed

theorem Answers.of_unarmed {level : DevicePower} {w : Wakeup} (unarmed : w.Unarmed)
    (result : Except DriverError Unit) : Answers v level result w :=
  ⟨.of_truthful (.inl unarmed) result, fun _ _ => unarmed, fun _ _ => unarmed⟩

theorem Answers.of_armed {level : DevicePower} {w : Wakeup} (armed : w.Armed)
    (low : level.isLow = true) (awake : v.asleep = false) : Answers v level (.ok ()) w := by
  refine ⟨.inr armed, nofun, ?_⟩
  rintro - (rfl | ⟨-, asleep⟩)
  · cases low
  · exact absurd (asleep.symm.trans awake) nofun

section Levels

variable {p : PowerRecord} {request : Option (Bool × Bool)} {level : DevicePower}

/-- Without a signal only a low level makes a difference, and only while the system sleeps. -/
theorem answers_unsignalled (truthful : (p.wakeup request).Truthful)
    (safe : level = .unspecified → p.waitWakeArmed = false)
    (signal : (p.setDevice level).1 = none) (disposition : PowerDisposition) :
    (do
      if level.isLow && !(← Act.device).power.system.isAwake then setWaitWake false
      report disposition level : Act η Unit).Takes wakeup ((p.setDevice level).2.wakeup request)
        (Answers (p.wakeup request) level) := by
  obtain ⟨-, wakes⟩ := PowerRecord.signal_none signal
  rw [PowerRecord.wakeup_setDevice]
  refine takes_device fun session known => ?_
  have awake : session.device.power.system.isAwake = p.system.isAwake :=
    Bool.not_inj (congrArg Wakeup.asleep known)
  have reported : (report disposition level : Act η Unit).Passes wakeup :=
    passes_report disposition level
  dsimp only
  rw [awake]
  split <;> rename_i sleeps
  · refine Takes.bind (takes_disarm (truthful.honest_moved _ _) fun request plain => ?_)
    exact reported.takes fun _ => .of_unarmed ⟨rfl, plain⟩ _
  · refine reported.takes fun _ => ?_
    obtain unarmed | armed := truthful
    · exact .of_unarmed (unarmed.moved _ _) _
    · -- An armed device that is not woken stays at a low level, with the system awake.
      have low : level.isLow = true := by
        cases level with
        | unspecified => exact absurd (armed.armed.symm.trans (safe rfl)) nofun
        | d0 => exact absurd (armed.low.symm.trans (wakes rfl)) nofun
        | d1 | d2 | d3 => rfl
      have up : p.system.isAwake = true := by simpa [low] using sleeps
      have idle : p.idleSuspended = true := armed.idle
      refine .of_armed ⟨armed.armed, armed.request, ?_, low⟩ low (congrArg Bool.not up)
      simp [Wakeup.moved, up, idle]

theorem answers_standby (truthful : (p.wakeup request).Truthful)
    (signal : (p.setDevice level).1 = some .standby) :
    (do stopDataPath (!(← Act.device).power.system.isAwake) {} : Act η Unit).Takes wakeup
      ((p.setDevice level).2.wakeup request) (Answers (p.wakeup request) level) := by
  obtain ⟨low, high⟩ := PowerRecord.signal_standby signal
  have unarmed := truthful.unarmed_of_high high
  rw [PowerRecord.wakeup_setDevice]
  refine takes_device fun session known => ?_
  have awake : session.device.power.system.isAwake = p.system.isAwake :=
    Bool.not_inj (congrArg Wakeup.asleep known)
  rw [awake]
  refine takes_stopDataPath (unarmed.moved _ _) (fun request plain => ?_) fun keeps idle => ?_
  · refine .of_unarmed ?_ _
    exact ⟨unarmed.armed, plain⟩
  · exact .of_armed ⟨rfl, rfl, idle, low⟩ low keeps

theorem answers_wakeup (truthful : (p.wakeup request).Truthful)
    (signal : (p.setDevice level).1 = some .wakeup) :
    (resumeDataPath : Act η Unit).Takes wakeup ((p.setDevice level).2.wakeup request)
      (Answers (p.wakeup request) level) := by
  obtain ⟨rfl, -, -⟩ := PowerRecord.signal_wakeup signal
  rw [PowerRecord.wakeup_setDevice]
  refine Takes.imp (takes_resumeDataPath (truthful.honest_moved _ _)) fun result w reached => ?_
  cases result with
  | ok _ => exact .of_unarmed reached _
  | error e =>
      subst reached
      obtain unarmed | armed := truthful
      · exact .of_unarmed (unarmed.moved _ _) _
      · exact ⟨.inr ⟨armed.armed, rfl⟩, fun _ unarmed => unarmed.moved _ _, nofun⟩

theorem answers_wakeupReset (truthful : (p.wakeup request).Truthful)
    (signal : (p.setDevice level).1 = some .wakeupReset) :
    (reinit : Act η Unit).Takes wakeup ((p.setDevice level).2.wakeup request)
      (Answers (p.wakeup request) level) := by
  obtain ⟨-, -, idle⟩ := PowerRecord.signal_wakeupReset signal
  have unarmed := truthful.unarmed_of_busy idle
  rw [PowerRecord.wakeup_setDevice]
  exact (reinit_maintains_unarmed _ (unarmed.moved _ _)).imp
    fun result w reached => .of_unarmed reached result

end Levels

theorem answers_setDevicePower {level : DevicePower} (truthful : v.Truthful)
    (safe : level = .unspecified → v.armed = false) :
    (setDevicePower level : Act η Unit).Takes wakeup v (Answers v level) := by
  have filtered : (filterRequest (.setDevice level) : Act η _).Passes wakeup :=
    fun session => ⟨_, _, rfl, rfl⟩
  have thenReport {act : Act η Unit} {w : Wakeup} (disposition : PowerDisposition)
      (takes : act.Takes wakeup w (Answers v level)) :
      (act >>= fun _ => report disposition level).Takes wakeup w (Answers v level) :=
    takes.andThen (fun _ _ reached => (passes_report disposition level).takes fun _ => reached)
      fun _ _ => id
  refine filtered.bind fun disposition => Takes.bind (takes_recordDevicePower
    (fun e => ⟨.inl truthful, fun _ => id, nofun⟩) ?_)
  rintro p request rfl
  cases signal : (p.setDevice level).1 with
  | none => exact answers_unsignalled truthful safe signal disposition
  | some signal' =>
      cases signal' with
      | standby => exact thenReport disposition (answers_standby truthful signal)
      | wakeup => exact thenReport disposition (answers_wakeup truthful signal)
      | wakeupReset => exact thenReport disposition (answers_wakeupReset truthful signal)

/-! ## Operations -/

theorem takes_ensureAwake (truthful : v.Truthful) :
    (ensureAwake : Act η Unit).Takes wakeup v Ends := by
  refine within_device.bind_wakeup (fun d => ?_) fun e => .inl truthful
  split
  · exact takes_pure truthful
  refine (spares_requestSelfPower .d0).bind (fun handle => ?_) fun e => .inl truthful
  refine (answers_setDevicePower truthful (by nofun)).tryCatch (fun _ _ answers => answers.ends) ?_
  exact fun e w answers => (passes_cancelRequest handle).bind fun _ => takes_throw answers.ends

theorem takes_open (truthful : v.Truthful) : («open» : Act η Unit).Takes wakeup v Ends := by
  refine within_device.bind_wakeup (fun d => ?_) fun e => .inl truthful
  split
  · exact takes_throw (.inl truthful)
  · refine (takes_ensureAwake truthful).andThen (fun _ w awake => ?_) fun _ _ => id
    exact within_attach.takes_wakeup (Ends.of_truthful awake)
  · exact takes_throw (.inl truthful)

theorem takes_send {channel : Channel} {payload : Bytes} (truthful : v.Truthful) :
    (send channel payload : Act η Unit).Takes wakeup v Ends := by
  refine within_device.bind_wakeup (fun d => ?_) fun e => .inl truthful
  dsimp only
  split
  · exact Takes.bind (takes_throw (.inl truthful))
  · refine (takes_ensureAwake truthful).andThen (fun _ w awake => ?_) fun _ _ => id
    exact (within_enqueue channel payload).takes_wakeup (Ends.of_truthful awake)

/-- An idle device is not armed yet, and not when its suspend fails either. -/
theorem takes_suspendIdle (unarmed : v.Unarmed) :
    (suspendIdle : Act η Unit).Takes wakeup v fun _ w => w.Truthful := by
  have idling : ({ v with idle := true } : Wakeup).Unarmed := ⟨unarmed.armed, unarmed.request⟩
  refine within_cancelIdleTimer.bind_wakeup (fun _ => (brings_idle true).bind fun _ => ?_)
    fun e => .inl unarmed
  refine (spares_requestSelfPower .d2).bind (fun handle => ?_) fun e => .inl idling
  refine (answers_setDevicePower (.inl idling) (by nofun)).tryCatch
    (fun _ _ answers => answers.ends) fun e w answers => ?_
  have still : w.Unarmed := answers.failed rfl idling
  refine (passes_cancelRequest handle).bind fun _ => (brings_idle false).bind fun _ => ?_
  exact takes_throw (.inl ⟨still.armed, still.request⟩)

theorem takes_pollIdle {now : Nat} (truthful : v.Truthful) :
    (pollIdle now : Act η Bool).Takes wakeup v fun _ w => w.Truthful := by
  refine takes_device fun session known => ?_
  split <;> rename_i expired
  · exact takes_pure truthful
  have high : v.level.isLow = false := by
    rw [← known]
    exact idleExpired_high (by simpa using expired)
  exact (takes_suspendIdle (truthful.unarmed_of_high high)).andThen
    (fun _ _ truthful => takes_pure truthful) fun _ _ truthful => truthful

theorem takes_setSystemPower {level : SystemPower} (truthful : v.Truthful) :
    (setSystemPower level : Act η Unit).Takes wakeup v Ends := by
  have recorded : (onPower fun p => p.setSystem level : Act η Unit).Brings wakeup v
      { v with asleep := !level.isAwake } := by
    rintro session rfl
    exact ⟨(), _, rfl, session.device.power.wakeup_setSystem level session.wakeupRequest⟩
  have still : ({ v with asleep := !level.isAwake } : Wakeup).Truthful := by
    obtain unarmed | armed := truthful
    · exact .inl ⟨unarmed.armed, unarmed.request⟩
    · exact .inr ⟨armed.armed, armed.request, armed.idle, armed.low⟩
  have told : (notify .deregistration : Act η Unit).Within (ordinary η) := within_emit rfl
  refine within_device.bind_wakeup (fun d => recorded.bind fun _ => ?_) fun e => .inl truthful
  split
  · refine (within_onQueues _ trivial).bind_wakeup (fun _ => ?_) fun e => .inl still
    split
    · exact told.takes_wakeup (Ends.of_truthful still)
    · exact takes_pure still
  · exact takes_pure still

theorem takes_handlePower {request : PowerRequest} (truthful : v.Truthful)
    (safe : request = .setDevice .unspecified → v.armed = false) :
    (handlePower request : Act η Unit).Takes wakeup v Ends := by
  cases request with
  | queryDevice level =>
      refine within_device.bind_wakeup (fun d => ?_) fun e => .inl truthful
      exact (spares_orThrow _).takes (Ends.of_truthful truthful)
  | querySystem level => exact takes_pure truthful
  | setSystem level => exact takes_setSystemPower truthful
  | setDevice level =>
      exact (answers_setDevicePower truthful fun same => safe (by rw [same])).imp
        fun _ _ answers => answers.ends

theorem start_truthful {session : Session η} (truthful : session.wakeup.Truthful)
    (safe : session.device.lifecycle = .present → session.device.power.waitWakeArmed = false) :
    ((start : Act η Unit).exec session).2.wakeup.Truthful := by
  -- Only a device that is present is changed by a start.
  have kept (same : ((start : Act η Unit).exec session).2 = session) :
      ((start : Act η Unit).exec session).2.wakeup.Truthful := by rwa [same]
  cases state : session.device.lifecycle with
  | present =>
      have unarmed : session.wakeup.Unarmed := ⟨safe state, truthful.honest (safe state)⟩
      have started : (start : Act η Unit).Within (restarting η) := within_start (Or.inr (Or.inl rfl))
      exact .inl (started.maintains_unarmed _ unarmed session rfl)
  | absent =>
      refine kept ?_
      unfold start
      rw [exec_bind_ok (exec_device session), state]
      unfold startPresent apply
      simp only [bind_assoc]
      rw [exec_bind_ok (exec_device session), state]
      rfl
  | started inService | surpriseRemoved | removed =>
      refine kept ?_
      unfold start
      rw [exec_bind_ok (exec_device session), state]
      rfl

/-! ## Runs -/

/-- The device is left armed though not suspended any more: it is started without being woken, made
to forget its level, or woken in vain. -/
def strands (session : Session η) : Happening → Bool
  | .operation .start =>
      session.device.lifecycle == .present && session.device.power.waitWakeArmed
  | .operation (.power (.setDevice .unspecified)) => session.device.power.waitWakeArmed
  | .operation operation =>
      let after := session.after operation
      !(operation.perform.exec session).1.isOk && after.device.power.waitWakeArmed &&
        !after.device.power.device.isLow
  | _ => false

theorem Ends.truthful {result : Except DriverError α} {w : Wakeup} (ends : Ends result w)
    (safe : (!result.isOk && w.armed && !w.level.isLow) = false) : w.Truthful := by
  cases result with
  | ok _ => exact ends
  | error e =>
      refine ends.resolve_right fun ⟨armed, high⟩ => ?_
      simp [Except.isOk, Except.toBool, armed, high] at safe

theorem next_truthful (session : Session η) (happening : Happening)
    (truthful : session.wakeup.Truthful) (safe : session.strands happening = false) :
    (session.next happening).wakeup.Truthful := by
  have kept {after : Session η} (reaches : (ordinary η).Reaches session after) :
      after.wakeup.Truthful := by rwa [ordinary_misses_wakeup.reaches reaches]
  cases happening with
  | loop name => exact kept ((reaches_loop session name).mono fun _ => ordinary_of_traffic)
  | transfers busy =>
      exact kept ((reaches_transfers session busy).mono fun _ => ordinary_of_traffic)
  | operation operation =>
      cases operation with
      | start =>
          refine start_truthful truthful fun present => ?_
          simpa [strands, present] using safe
      | «open» => exact (takes_open truthful session rfl).truthful safe
      | close => exact kept (within_close session).1
      | stop => exact kept (within_stop session).1
      | surpriseRemove => exact kept (within_surpriseRemove rfl session).1
      | shutdown => exact kept (within_shutdown session).1
      | send channel payload => exact (takes_send truthful session rfl).truthful safe
      | pollIdle now =>
          have polled : (discard (pollIdle now) : Act η Unit).Takes wakeup session.wakeup
              fun _ w => w.Truthful :=
            (takes_pollIdle truthful).discard (fun _ _ => id) fun _ _ => id
          exact polled session rfl
      | power request =>
          have ends (keeps : request ≠ .setDevice .unspecified) :
              Ends ((handlePower request : Act η Unit).exec session).1
                (session.after (.power request)).wakeup :=
            takes_handlePower truthful (fun same => absurd same keeps) session rfl
          cases request with
          | setDevice level =>
              cases level with
              | unspecified =>
                  have unarmed : session.wakeup.Unarmed := ⟨safe, truthful.honest safe⟩
                  have answers : Answers session.wakeup .unspecified
                      ((setDevicePower .unspecified : Act η Unit).exec session).1
                      (session.after (.power (.setDevice .unspecified))).wakeup :=
                    answers_setDevicePower (.inl unarmed) (fun _ => unarmed.armed) session rfl
                  refine answers.ends.truthful ?_
                  cases ok : ((setDevicePower .unspecified : Act η Unit).exec session).1.isOk with
                  | true => rfl
                  | false => simp [(answers.failed ok unarmed).armed]
              | d0 | d1 | d2 | d3 => exact (ends nofun).truthful safe
          | queryDevice | querySystem | setSystem => exact (ends nofun).truthful safe

/-- In a run that leaves no device armed outside of its suspends, and in which the device obeyed
every request to arm it, the wait-wake flag is set exactly if the last request was one to arm. After
every D0 that was accepted, and every low level with the system asleep, it was not. -/
theorem wait_wake_tells_truth (key : AdapterKey) (host : η) (store : Store)
    (options : SessionOptions) (happenings : List Happening) {session : Session η}
    (reached : (create key host store options).through happenings = session)
    (disarms : (create key host store options).along (fun session happening =>
      !session.strands happening) happenings = true) :
    (session.Obeyed →
      (session.device.power.waitWakeArmed = true ↔ session.lastWakeup = some true)) ∧
    ∀ level after, (handlePower (.setDevice level)).exec session = (.ok (), after) →
      level = .d0 ∨ level.isLow = true ∧ session.device.power.system.isAwake = false →
      after.Obeyed → after.lastWakeup ≠ some true := by
  have truthful : session.wakeup.Truthful := by
    rw [← reached]
    have initially : (create key host store options).wakeup.Truthful := .inl ⟨rfl, nofun⟩
    have next (session : Session η) (happening : Happening) (truthful : session.wakeup.Truthful)
        (safe : (!session.strands happening) = true) :
        (session.next happening).wakeup.Truthful :=
      next_truthful session happening truthful (by simpa using safe)
    exact through_invariant next _ happenings initially disarms
  refine ⟨fun obeyed => ?_, fun level after accepted disarming obeyed => ?_⟩
  · rw [lastWakeup_armed obeyed]
    obtain unarmed | armed := truthful
    · exact iff_of_false (Bool.eq_false_iff.mp unarmed.armed) unarmed.request
    · exact iff_of_true armed.armed armed.request
  · have safe : level = .unspecified → session.wakeup.armed = false := by
      rintro rfl
      simp [DevicePower.isLow, DevicePower.depth] at disarming
    have answers := answers_setDevicePower truthful safe session rfl
    rw [show (setDevicePower level).exec session = (.ok (), after) from accepted] at answers
    have unarmed : after.wakeup.Unarmed := answers.disarmed rfl <|
      disarming.imp_right <| And.imp_right (congrArg Bool.not)
    exact fun armed => unarmed.request ((lastWakeup_armed obeyed).mp armed)

/-- A device that is suspended for being idle is armed, and disarmed when the system sleeps. -/
theorem wait_wake_tells_truth_asleep :
    let session := (create ⟨220, 14, 0⟩ ({} : ScriptedModem) {} { idleTimeout := some 0 }).through
      [.operation .start, .operation .open, .operation .close, .operation (.pollIdle 1000),
        .operation (.power (.setSystem .sleeping3))]
    let after := ((handlePower (.setDevice .d3)).exec session).2
    session.device.power.waitWakeArmed = true ∧ session.lastWakeup = some true ∧
      after.lastWakeup ≠ some true := by
  intro session after
  obtain ⟨flag, disarmed⟩ := wait_wake_tells_truth _ _ _ _ _ (rfl : _ = session) (by decide +kernel)
  have armed : session.device.power.waitWakeArmed = true := by decide +kernel
  have accepted : (handlePower (.setDevice .d3)).exec session = (.ok (), after) :=
    exec_of_result (by decide +kernel)
  exact ⟨armed, (flag (by decide +kernel)).mp armed,
    disarmed .d3 after accepted (.inr (by decide +kernel)) (by decide +kernel)⟩

/-- A restart forgets that the device is armed, and so does the request that should disarm it. -/
theorem wait_wake_survives_restart :
    let session := (create ⟨220, 14, 0⟩ ({} : ScriptedModem) {} { idleTimeout := some 0 }).run
      [.start, .open, .close, .pollIdle 1000, .stop, .start, .power (.setSystem .sleeping3),
        .power (.setDevice .d3), .power (.setDevice .d0)]
    (session.trace.all fun | .controlOut _ result => result.isOk | _ => true) = true ∧
      session.device.power.waitWakeArmed = false ∧ session.lastWakeup = some true := by
  decide +kernel

end Session

end Host

end ModemLink
