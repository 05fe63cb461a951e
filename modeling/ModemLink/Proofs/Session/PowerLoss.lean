import Mathlib.Control.Monad.Basic
import ModemLink.Proofs.Session.Veto
import ModemLink.Proofs.Store.Lookup
import ModemLink.Scripted

/-!
# Loss of power

A suspend that is overtaken by a low level of a sleeping system costs the device its power: when it
is woken it is enumerated anew, which is counted.
-/

namespace ModemLink

open Act Footprint

namespace Core

variable {c d : Core} {level : DevicePower} {result : Except DriverError Unit}

/-! ## Suspended devices -/

/-- At a low level the device is marked as suspended. -/
structure Marked (c : Core) : Prop where
  mode : c.power.lowPowerMode = true → c.power.powerSuspended = true
  low : c.power.device.isLow = true → c.power.powerSuspended = true

namespace Marked

theorem ofPower (marked : c.Marked) (same : d.power = c.power) : d.Marked :=
  ⟨same ▸ marked.mode, same ▸ marked.low⟩

theorem starts (marked : c.Marked) (starts : c.Starts result d) : d.Marked := by
  cases starts with
  | already | refused => exact marked
  | undone e present halts => exact marked.ofPower halts.power
  | begun present =>
      rw [begun_eq]
      exact ⟨marked.mode, nofun⟩

theorem attaches (marked : c.Marked) (attaches : c.Attaches result d) : d.Marked := by
  cases attaches with
  | refused => exact marked
  | noRead e free ok | noWrite e free ok =>
      rw [stop_eq]
      exact ⟨marked.mode, marked.low⟩
  | attached free => exact ⟨marked.mode, marked.low⟩

theorem closes (marked : c.Marked) (closes : c.Closes d) : d.Marked := by
  cases closes with
  | unattended => exact marked
  | detached attached write read =>
      simp only [stop_eq]
      exact ⟨marked.mode, marked.low⟩

theorem resumes (marked : c.Marked) (high : c.power.device.isLow = false)
    (resumes : c.Resumes result d) : d.Marked := by
  cases resumes with
  | noInterrupt => exact ⟨marked.mode, marked.low⟩
  | noRead | noWrite =>
      rw [listening_eq]
      exact ⟨marked.mode, marked.low⟩
  | unattended | attended =>
      rw [listening_eq]
      exact ⟨nofun, fun low => absurd (high.symm.trans low) nofun⟩

theorem quiesces (mode : c.power.lowPowerMode = true → c.power.powerSuspended = true)
    (quiesces : c.Quiesces d) : d.Marked := by
  cases quiesces with
  | already low => exact ⟨mode, fun _ => mode low⟩
  | stopped high read write interrupt =>
      simp only [stop_eq]
      exact ⟨fun _ => rfl, fun _ => rfl⟩

theorem reinitializes (marked : c.Marked) (high : c.power.device.isLow = false)
    (reinitializes : c.Reinitializes result d) : d.Marked := by
  have vacated {f : Core} (halts : c.Halts f) : f.vacated.Marked :=
    ⟨nofun, fun low => absurd ((halts.high high).symm.trans low) nofun⟩
  cases reinitializes with
  | refused e away unstarted halts => exact marked.ofPower halts.power
  | lost e halts starts | unattended free halts starts => exact (vacated halts).starts starts
  | attended attached halts starts attaches =>
      exact ((vacated halts).starts starts).attaches attaches

theorem recorded (marked : c.Marked)
    (low : level.isLow = true → c.power.device.isLow = true) : (c.recorded level).Marked := by
  refine ⟨?_, ?_⟩
  · rw [recorded_lowPowerMode, recorded_powerSuspended]
    exact marked.mode
  · rw [recorded_device, recorded_powerSuspended]
    exact fun deep => marked.low (low deep)

theorem setsDevice (marked : c.Marked) (sets : c.SetsDevice level result d) : d.Marked := by
  cases sets with
  | vetoed => exact marked
  | recorded silent => exact marked.recorded (signal_none silent).1
  | standby signal quiesces =>
      refine .quiesces ?_ quiesces
      rw [recorded_lowPowerMode, recorded_powerSuspended]
      exact marked.mode
  | wakeup signal resumes =>
      obtain ⟨rfl, -⟩ := signal_wakeup signal
      exact (marked.recorded (by nofun)).resumes recorded_d0_high resumes
  | reset signal reinitializes =>
      obtain ⟨rfl, -⟩ := signal_wakeupReset signal
      exact (marked.recorded (by nofun)).reinitializes recorded_d0_high reinitializes

theorem stable : Stable Marked fun _ _ => false where
  starts marked _ := marked.starts
  attaches marked _ := marked.attaches
  closes := closes
  halted marked halts _ := marked.ofPower halts.power
  untimed marked := ⟨marked.mode, marked.low⟩
  idling marked := ⟨marked.mode, marked.low⟩
  setsSystem {c level} marked := by
    refine ⟨?_, ?_⟩
    · rw [PowerRecord.setSystem_lowPowerMode, PowerRecord.setSystem_powerSuspended]
      exact marked.mode
    · rw [PowerRecord.setSystem_device, PowerRecord.setSystem_powerSuspended]
      exact marked.low
  setsDevice marked _ := marked.setsDevice
  suspendable _ := rfl
  wakeable _ := rfl

end Marked

/-! ## Suspends that are not idle -/

/-- The device was not suspended for being idle, or that was overtaken. -/
def Overtaken (c : Core) : Prop := c.power.idleSuspended = false

namespace Overtaken

theorem ofPower (overtaken : c.Overtaken) (same : d.power = c.power) : d.Overtaken := by
  rwa [Overtaken, same]

theorem starts (overtaken : c.Overtaken) (starts : c.Starts result d) : d.Overtaken := by
  cases starts with
  | already | refused => exact overtaken
  | undone e present halts => exact overtaken.ofPower halts.power
  | begun present =>
      rw [begun_eq]
      exact overtaken

theorem attaches (overtaken : c.Overtaken) (attaches : c.Attaches result d) : d.Overtaken := by
  cases attaches with
  | refused | attached free => exact overtaken
  | noRead e free ok | noWrite e free ok =>
      rw [stop_eq]
      exact overtaken

theorem closes (overtaken : c.Overtaken) (closes : c.Closes d) : d.Overtaken := by
  cases closes with
  | unattended => exact overtaken
  | detached attached write read =>
      simp only [stop_eq]
      exact overtaken

theorem resumes (overtaken : c.Overtaken) (resumes : c.Resumes result d) : d.Overtaken := by
  cases resumes with
  | noInterrupt => exact overtaken
  | noRead | noWrite =>
      rw [listening_eq]
      exact overtaken
  | unattended | attended =>
      rw [listening_eq]
      rfl

theorem quiesces (overtaken : c.Overtaken) (quiesces : c.Quiesces d) : d.Overtaken := by
  cases quiesces with
  | already => exact overtaken
  | stopped high read write interrupt =>
      simp only [stop_eq]
      exact overtaken

theorem reinitializes (overtaken : c.Overtaken) (reinitializes : c.Reinitializes result d) :
    d.Overtaken := by
  have vacated (f : Core) : f.vacated.Overtaken := rfl
  cases reinitializes with
  | refused e away unstarted halts => exact overtaken.ofPower halts.power
  | lost e halts starts | unattended free halts starts => exact (vacated _).starts starts
  | attended attached halts starts attaches => exact ((vacated _).starts starts).attaches attaches

theorem recorded (level : DevicePower) (overtaken : c.Overtaken) :
    (c.recorded level).Overtaken := by
  have overtaken : c.power.idleSuspended = false := overtaken
  rw [Overtaken, Core.recorded, PowerRecord.setDevice_idleSuspended, overtaken, Bool.false_and]

theorem setsDevice (overtaken : c.Overtaken) (sets : c.SetsDevice level result d) :
    d.Overtaken := by
  have recorded := overtaken.recorded level
  cases sets with
  | vetoed => exact overtaken
  | recorded silent => exact recorded
  | standby signal quiesces => exact recorded.quiesces quiesces
  | wakeup signal resumes => exact recorded.resumes resumes
  | reset signal reinitializes => exact recorded.reinitializes reinitializes

theorem wakes (overtaken : c.Overtaken) (wakes : c.Wakes result d) : d.Overtaken := by
  cases wakes with
  | awake | exhausted => exact overtaken
  | woken low sets => exact overtaken.setsDevice sets

/-- Only a device at D0 falls idle. -/
theorem performs {operation : Operation} (overtaken : c.Overtaken)
    (low : c.power.device.isLow = true) (performs : c.Performs operation d) : d.Overtaken := by
  cases operation with
  | start =>
      obtain ⟨result, starts⟩ := performs
      exact overtaken.starts starts
  | «open» =>
      obtain ⟨result, opens⟩ := performs
      cases opens with
      | refused => exact overtaken
      | asleep e free wakes => exact overtaken.wakes wakes
      | awake free wakes attaches => exact (overtaken.wakes wakes).attaches attaches
  | close => exact overtaken.closes performs
  | stop =>
      obtain ⟨result, stops⟩ := performs
      cases stops with
      | refused e closes halts | stopped closes halts =>
          have halted := (overtaken.closes closes).ofPower halts.power
          exact halted
  | surpriseRemove =>
      cases performs with
      | removed halts =>
          have halted := overtaken.ofPower halts.power
          exact halted
  | shutdown =>
      obtain ⟨closes, halts⟩ := performs
      exact (overtaken.closes closes).ofPower halts.power
  | send channel payload =>
      obtain ⟨result, sends⟩ := performs
      cases sends with
      | refused => exact overtaken
      | asleep e attached wakes | unframed e attached wakes | sent attached wakes =>
          exact overtaken.wakes wakes
  | pollIdle now =>
      obtain ⟨result, polls⟩ := performs
      cases polls with
      | kept => exact overtaken
      | exhausted e high | failed e high | suspended high =>
          exact absurd (high.symm.trans low) nofun
  | power request =>
      obtain ⟨result, handles⟩ := performs
      cases handles with
      | queryDevice | querySystem => exact overtaken
      | setSystem level => rwa [Overtaken, PowerRecord.setSystem_idleSuspended]
      | setDevice sets => exact overtaken.setsDevice sets

/-- A low level that is new overtakes an idle suspend while the system sleeps. -/
theorem ofAsleep (low : level.isLow = true) (new : c.power.device ≠ level)
    (asleep : c.power.system.isAwake = false) (sets : c.SetsDevice level (.ok ()) d) :
    d.Overtaken := by
  have recorded : (c.recorded level).Overtaken := by
    rw [Overtaken, Core.recorded, PowerRecord.setDevice_idleSuspended]
    simp [low, new, asleep]
  cases sets with
  | recorded silent => exact recorded
  | standby signal quiesces => exact recorded.quiesces quiesces
  | wakeup signal resumes => exact recorded.resumes resumes
  | reset signal reinitializes => exact recorded.reinitializes reinitializes

end Overtaken

end Core

namespace Session

variable {η : Type} {session : Session η}

/-- At D0 a device that was marked as suspended, and was not idle, is restarted. -/
theorem signal_lost (marked : session.core.Marked) (overtaken : session.core.Overtaken)
    (low : session.device.power.device.isLow = true) :
    (session.device.power.setDevice .d0).1 = some .wakeupReset := by
  have suspended : session.device.power.powerSuspended = true := marked.low low
  have busy : session.device.power.idleSuspended = false := overtaken
  simp [PowerRecord.setDevice_signal, low, suspended, busy]

/-! ## The count of restarts -/

/-- The count of restarts, as far as the store can be read. -/
def restarts (session : Session η) : Except DriverError (Option StoreValue) :=
  session.store.get .ssrCounter

/-- A restart that went through is counted. -/
def Counted (value : Option StoreValue) (result : Except DriverError Unit)
    (count : Except DriverError (Option StoreValue)) : Prop :=
  result = .ok () → count = .ok (some (.number (StoreValue.next value)))

/-- The count goes up even if it cannot be written. -/
theorem brings_count (value : Option StoreValue) :
    (attempt (storeIncrement .ssrCounter) : Act η Unit).Brings restarts (.ok value)
      (.ok (some (.number (StoreValue.next value)))) := by
  have noted (event : Event) : (emit event : Act η Unit).Passes restarts :=
    fun session => ⟨(), _, rfl, rfl⟩
  exact brings_storeIncrement (fun _ => noted _) (noted _) (fun _ known => known) fun _ known =>
    Store.get_set known

variable [Host η]

theorem ordinary_misses_restarts :
    (ordinary η).Misses (restarts : Session η → Except DriverError (Option StoreValue)) := by
  intro change s t allowed makes
  cases makes with
  | store _ key value => exact Store.get_set_other (Ne.symm allowed)
  | pool | level | suspension | waitWake | system => cases allowed
  | _ => rfl

theorem starting_misses_restarts :
    (starting η).Misses (restarts : Session η → Except DriverError (Option StoreValue)) := by
  refine ordinary_misses_restarts.allowing ?_
  rintro _ _ ⟨⟩
  rfl

theorem takes_reinit_counted (value : Option StoreValue) :
    (reinit : Act η Unit).Takes restarts (.ok value) (Counted value) := by
  have spares {act : Act η Unit} (within : act.Within (ordinary η)) : act.Spares restarts :=
    within.spares ordinary_misses_restarts
  have cleared : (clearSuspend : Act η Unit).Passes restarts := fun session => ⟨(), _, rfl, rfl⟩
  refine takes_device fun session _ => (spares (within_stopAll _ _ _ _)).bind (fun _ => ?_) nofun
  refine takes_either ?_ fun rest => (spares (within_applies .closed nofun)).bind (fun _ => rest) nofun
  refine (spares within_releaseInterfaces).bind (fun _ => ?_) nofun
  refine (spares (within_applies .stop nofun)).bind (fun _ => cleared.bind fun _ => ?_) nofun
  -- From here on the count stays, whatever becomes of the start.
  refine (brings_count value).bind fun _ => Spares.takes (Spares.seq ?_ fun _ => ?_) fun _ _ => rfl
  · exact Within.spares (within_start (Or.inl rfl)) starting_misses_restarts
  · split
    · exact spares within_attach
    · exact spares_pure ()

/-! ## Runs -/

/-- The device is at a low level afterwards. -/
def keepsLow (session : Session η) (happening : Happening) : Bool :=
  (session.next happening).device.power.device.isLow

/-- While the device stays low, an idle suspend that was overtaken does not come back. -/
theorem through_overtaken (session : Session η) (happenings : List Happening)
    (overtaken : session.core.Overtaken) (low : session.device.power.device.isLow = true)
    (stays : session.along keepsLow happenings = true) :
    (session.through happenings).core.Overtaken ∧
      (session.through happenings).device.power.device.isLow = true := by
  have next (session : Session η) (happening : Happening)
      (holds : session.core.Overtaken ∧ session.device.power.device.isLow = true)
      (stays : session.keepsLow happening = true) :
      (session.next happening).core.Overtaken ∧
        (session.next happening).device.power.device.isLow = true := by
    refine ⟨?_, stays⟩
    obtain same | ⟨operation, -, performs⟩ := session.next_core happening
    · rw [same]
      exact holds.1
    · exact holds.1.performs holds.2 performs
  exact through_invariant next session happenings ⟨overtaken, low⟩ stays

/-! ## Waking -/

/-- What D0 leaves to be done after a loss of power. -/
def restartFor (disposition : PowerDisposition) : Act η Unit := do
  reinit
  report disposition .d0

theorem takes_restartFor (disposition : PowerDisposition) (value : Option StoreValue) :
    (restartFor disposition : Act η Unit).Takes restarts (.ok value) (Counted value) := by
  have reported : (report disposition .d0 : Act η Unit).Passes restarts := by
    unfold report
    split
    · exact fun session => ⟨(), _, rfl, rfl⟩
    · exact passes_pure ()
  exact (takes_reinit_counted value).andThen
    (fun _ count counted => reported.takes fun _ => counted) fun _ _ _ => nofun

theorem exec_setDevice_lost (signal : (session.device.power.setDevice .d0).1 = some .wakeupReset) :
    (setDevicePower .d0 : Act η Unit).exec session =
      (restartFor (session.device.pool.filter (.setDevice .d0)).1).exec
        { session with device := { session.device with
          power := (session.device.power.setDevice .d0).2
          pool := (session.device.pool.filter (.setDevice .d0)).2 } } := by
  unfold setDevicePower
  rw [exec_bind_ok (exec_filterRequest session _), exec_bind_ok (exec_recordDevicePower (by rfl))]
  simp only [signal]
  rfl

theorem setDevice_counted {after : Session η} {value : Option StoreValue}
    (signal : (session.device.power.setDevice .d0).1 = some .wakeupReset)
    (readable : session.restarts = .ok value)
    (ended : (setDevicePower .d0).exec session = (.ok (), after)) :
    after.restarts = .ok (some (.number (StoreValue.next value))) := by
  have counted := takes_restartFor (session.device.pool.filter (.setDevice .d0)).1 value
    { session with device := { session.device with
      power := (session.device.power.setDevice .d0).2
      pool := (session.device.pool.filter (.setDevice .d0)).2 } } readable
  rw [← exec_setDevice_lost signal, ended] at counted
  exact counted rfl

/-- A low level that the device is not at yet costs it its power if it comes while the system
sleeps, even in an idle suspend. The next D0 while it is still low, be it the host's or the
driver's own, restarts it; and a restart that goes through is counted. -/
theorem sleep_overtakes_idle (key : AdapterKey) (host : η) (store : Store)
    (options : SessionOptions) (before later : List Happening) {level : DevicePower}
    {sleeping lost session : Session η}
    (reached : (create key host store options).through before = sleeping)
    (asleep : sleeping.device.power.system.isAwake = false) (low : level.isLow = true)
    (new : sleeping.device.power.device ≠ level)
    (accepted : (handlePower (.setDevice level)).exec sleeping = (.ok (), lost))
    (stays : lost.along keepsLow later = true)
    (asked : lost.through later = session) (pool : RequestPool) :
    let woken : Session η := { session with device.pool := pool }
    (setDevicePower .d0).exec woken =
        (restartFor (pool.filter (.setDevice .d0)).1).exec { session with device :=
          { session.device with
            power := (session.device.power.setDevice .d0).2
            pool := (pool.filter (.setDevice .d0)).2 } } ∧
      ∀ after value, (setDevicePower .d0).exec woken = (.ok (), after) →
        session.store.get .ssrCounter = .ok value →
        after.store.get .ssrCounter = .ok (some (.number (StoreValue.next value))) := by
  have first : sleeping.core.Marked :=
    reached ▸ through_stable Core.Marked.stable _ before ⟨nofun, nofun⟩ (avoids_never _ before)
  have sets : sleeping.core.SetsDevice level (.ok ()) lost.core := by
    have leads : (setDevicePower level : Act η Unit).Leads sleeping.core
        (sleeping.core.SetsDevice level) := leads_setDevicePower
    have sets := leads sleeping rfl
    rwa [show (setDevicePower level).exec sleeping = (.ok (), lost) from accepted] at sets
  have overtaken : lost.core.Overtaken := .ofAsleep low new asleep sets
  have deep : lost.device.power.device.isLow = true :=
    (congrArg DevicePower.isLow (sets.device low)).trans low
  have marked : lost.core.Marked := first.setsDevice sets
  obtain ⟨overtaken, deep⟩ := asked ▸ through_overtaken lost later overtaken deep stays
  have marked : session.core.Marked :=
    asked ▸ through_stable Core.Marked.stable lost later marked (avoids_never lost later)
  intro woken
  have signal : (woken.device.power.setDevice .d0).1 = some .wakeupReset :=
    signal_lost marked overtaken deep
  exact ⟨exec_setDevice_lost signal, fun after value ended readable =>
    setDevice_counted signal readable ended⟩

/-- The low level that the system sleeps at overtakes the one of the idle suspend. -/
theorem sleep_overtakes_idle_at_d3 :
    let sleeping := (create ⟨220, 13, 0⟩ ({} : ScriptedModem) {} { idleTimeout := some 0 }).through
      [.operation .start, .operation .open, .operation .close, .operation (.pollIdle 1000),
        .operation (.power (.setSystem .sleeping3))]
    let session := (sleeping.after (.power (.setDevice .d3))).through
      [.operation (.power (.setSystem .working))]
    let after := ((handlePower (.setDevice .d0)).exec session).2
    sleeping.device.power.idleSuspended = true ∧
      (handlePower (.setDevice .d0)).exec session = (.ok (), after) ∧
      after.store.get .ssrCounter = .ok (some (.number 1)) := by
  intro sleeping session after
  have accepted : (handlePower (.setDevice .d3)).exec sleeping =
      (.ok (), sleeping.after (.power (.setDevice .d3))) :=
    exec_of_result (by decide +kernel)
  have woken : (handlePower (.setDevice .d0)).exec session = (.ok (), after) :=
    exec_of_result (by decide +kernel)
  obtain ⟨-, counted⟩ := sleep_overtakes_idle _ _ _ _ _ [.operation (.power (.setSystem .working))]
    (rfl : _ = sleeping) (by decide +kernel) rfl (by decide +kernel) accepted (by decide +kernel)
    (rfl : _ = session) session.device.pool
  have same (s : Session ScriptedModem) : { s with device.pool := s.device.pool } = s := rfl
  rw [same] at counted
  exact ⟨by decide +kernel, woken, counted after none woken (by decide +kernel)⟩

/-- The level of the idle suspend itself overtakes nothing, and the device is merely resumed. -/
theorem same_level_overtakes_nothing :
    let sleeping := (create ⟨220, 13, 0⟩ ({} : ScriptedModem) {} { idleTimeout := some 0 }).run
      [.start, .open, .close, .pollIdle 1000, .power (.setSystem .sleeping3)]
    let session := sleeping.run [.power (.setDevice .d2), .power (.setSystem .working)]
    let after := ((handlePower (.setDevice .d0)).exec session).2
    sleeping.device.power.idleSuspended = true ∧
      ((handlePower (.setDevice .d2)).exec sleeping).1 = .ok () ∧
      ((handlePower (.setDevice .d0)).exec session).1 = .ok () ∧
      after.store.get .ssrCounter = .ok none := by
  decide +kernel

end Session

end ModemLink
