import Mathlib.Tactic.SplitIfs
import ModemLink.Proofs.Session.PowerRecord
import ModemLink.Session.Operation

/-!
# Outcomes of the operations

What the operations of a session make of its core, as a machine of its own: one relation for each
function, with one case for each way it can end. What the host answers decides which case it is.
-/

namespace ModemLink

namespace Lifecycle

variable {state state' : Lifecycle} {e : DriverError}

/-- The state after an event, which is the same one if the event is refused. -/
def advance (state : Lifecycle) (event : LifecycleEvent) : Lifecycle :=
  match state.next event with
  | .ok state => state
  | .error _ => state

theorem inService_iff : state.inService = true ↔ state = .started true := by
  cases state with
  | started inService => cases inService <;> simp [Lifecycle.inService]
  | _ => simp [Lifecycle.inService]

theorem eq_started_false (started : state.isStarted = true) (free : state.inService = false) :
    state = .started false := by
  cases state with
  | started inService =>
      cases inService with
      | false => rfl
      | true => cases free
  | _ => cases started

theorem isStarted_of_inService (attached : state.inService = true) : state.isStarted = true := by
  rw [inService_iff.mp attached]
  rfl

theorem isPresent_of_isStarted (started : state.isStarted = true) : state.isPresent = true := by
  cases state with
  | started inService => rfl
  | _ => cases started

theorem isRemoved_of_isPresent (there : state.isPresent = true) : state.isRemoved = false := by
  cases state with
  | present | started inService => rfl
  | _ => cases there

theorem inService_of_isRemoved (gone : state.isRemoved = true) : state.inService = false := by
  cases state with
  | surpriseRemoved | removed => rfl
  | _ => cases gone

theorem advance_remove (state : Lifecycle) : state.advance .remove = .removed := by
  cases state with
  | started inService => cases inService <;> rfl
  | _ => rfl

theorem advance_surpriseRemove (state : Lifecycle) :
    (state.advance .surpriseRemove).isStarted = false := by
  cases state with
  | started inService => cases inService <;> rfl
  | _ => rfl

theorem advance_surpriseRemove_away (state : Lifecycle) :
    (state.advance .surpriseRemove).isPresent = false := by
  cases state with
  | started inService => cases inService <;> rfl
  | _ => rfl

theorem isRemoved_advance_surpriseRemove
    (gone : state.isStarted = true ∨ state.isRemoved = true) :
    (state.advance .surpriseRemove).isRemoved = true := by
  cases state with
  | absent | present => simp [Lifecycle.isStarted, Lifecycle.isRemoved] at gone
  | started inService => cases inService <;> rfl
  | surpriseRemoved | removed => rfl

theorem next_start (moved : state.next .start = .ok state') (unstarted : state.isStarted = false) :
    state = .present ∧ state' = .started false := by
  cases state with
  | present => exact ⟨rfl, (Except.ok.inj moved).symm⟩
  | started inService => cases unstarted
  | _ => cases moved

theorem next_opened (moved : state.next .opened = .ok state') :
    state = .started false ∧ state' = .started true := by
  cases state with
  | started inService => cases inService with
    | false => exact ⟨rfl, (Except.ok.inj moved).symm⟩
    | true => cases moved
  | _ => cases moved

theorem next_closed (moved : state.next .closed = .ok state') :
    state.isStarted = true ∧ state' = .started false := by
  cases state with
  | started inService => cases inService <;> exact ⟨rfl, (Except.ok.inj moved).symm⟩
  | _ => cases moved

theorem next_stop (moved : state.next .stop = .ok state') : state' = .present := by
  cases state with
  | present => exact (Except.ok.inj moved).symm
  | started inService => cases inService <;> exact (Except.ok.inj moved).symm
  | _ => cases moved

theorem isPresent_of_next_stop (moved : state.next .stop = .ok state') :
    state.isPresent = true := by
  cases state with
  | present | started inService => rfl
  | _ => cases moved

theorem next_stop_refused (refused : state.next .stop = .error e) :
    state ≠ .present ∧ state.isStarted = false := by
  cases state with
  | present => cases refused
  | started inService => cases inService <;> cases refused
  | _ => exact ⟨nofun, rfl⟩

end Lifecycle

namespace Core

variable (c : Core)

def Clean (c : Core) : Prop := c.startFailed = false ∧ c.stopFailed = false

/-! ## Moves -/

/-- The interrupt loop belongs to the USB function itself. -/
def listening : Core := if c.mux.isPrimary then c.start .interrupt else c

def serving : Core := (c.start .read).start .write

def launched : Core := (({ c with lifecycle := .started false } : Core).start .dispatch).listening

/-- Started and fully powered. -/
def begun : Core := { c.launched with power := { c.launched.power with device := .d0 } }

/-- A client is attached, its loops not started yet. -/
def engaged : Core :=
  { c with
    lifecycle := .started true
    power := { c.power with suspendAllowed := false, idleDeadline := none } }

/-- The client is gone: the device may be suspended again. -/
def detached : Core :=
  { c with
    lifecycle := .started false
    power := { c.power with
      suspendAllowed := c.options.selectiveSuspend
      idleDeadline := (c.options.idleTimeout.map (c.now + ·)).or c.power.idleDeadline } }

def suspending : Core :=
  { c with power := { c.power with powerSuspended := true, lowPowerMode := true } }

def cleared : Core := { c with power := c.power.clearSuspend }

def vacated : Core := { c.cleared with lifecycle := .present }

def untimed : Core := { c with power := { c.power with idleDeadline := none } }

def idling (idle : Bool) : Core := { c with power := { c.power with idleSuspended := idle } }

def recorded (level : DevicePower) : Core := { c with power := (c.power.setDevice level).2 }

def signal (level : DevicePower) : Option PowerSignal := (c.power.setDevice level).1

theorem listening_eq : c.listening =
    { c with
      live := if c.mux.isPrimary then Function.update c.live .interrupt true else c.live } := by
  unfold listening start
  split <;> rfl

theorem begun_eq : c.begun =
    { c with
      lifecycle := .started false
      power := { c.power with device := .d0 }
      live := if c.mux.isPrimary then
          Function.update (Function.update c.live .dispatch true) .interrupt true
        else Function.update c.live .dispatch true } := by
  unfold begun launched
  rw [listening_eq]
  rfl

/-! ## Signals -/

section Signals

variable {c} {level : DevicePower}

theorem recorded_device : (c.recorded level).power.device = level :=
  c.power.setDevice_device level

theorem recorded_powerSuspended :
    (c.recorded level).power.powerSuspended = c.power.powerSuspended :=
  c.power.setDevice_powerSuspended level

theorem recorded_lowPowerMode : (c.recorded level).power.lowPowerMode = c.power.lowPowerMode :=
  c.power.setDevice_lowPowerMode level

theorem recorded_d0_high : (c.recorded .d0).power.device.isLow = false := by
  rw [recorded_device]
  rfl

theorem signal_none (signal : c.signal level = none) :
    (level.isLow = true → c.power.device.isLow = true) ∧
      (level = .d0 → c.power.device.isLow = false) :=
  PowerRecord.signal_none signal

theorem signal_standby (signal : c.signal level = some .standby) :
    level.isLow = true ∧ c.power.device.isLow = false :=
  PowerRecord.signal_standby signal

theorem signal_wakeup (signal : c.signal level = some .wakeup) :
    level = .d0 ∧ c.power.device.isLow = true ∧
      (c.power.powerSuspended = true → c.power.idleSuspended = true) :=
  PowerRecord.signal_wakeup signal

theorem signal_wakeupReset (signal : c.signal level = some .wakeupReset) :
    level = .d0 ∧ c.power.device.isLow = true := by
  obtain ⟨full, low, -⟩ := PowerRecord.signal_wakeupReset signal
  exact ⟨full, low⟩

end Signals

/-! ## Ends -/

/-- Some loops were started, or were to be. -/
inductive Tries : Core → Prop
  | tried (live : LoopName → Bool) (startFailed : Bool)
      (start : startFailed = false → c.startFailed = false) : Tries { c with live, startFailed }

/-- All loops were asked to stop, some of them perhaps started just before. -/
inductive Halts : Core → Prop
  | halted (live : LoopName → Bool) (startFailed stopFailed : Bool)
      (start : startFailed = false → c.startFailed = false)
      (stop : stopFailed = false → c.stopFailed = false ∧ ∀ name, live name = false) :
      Halts { c with live, startFailed, stopFailed }

theorem halts_stop_all (read write dispatch interrupt : Bool) :
    c.Halts ((((c.stop .read read).stop .write write).stop .dispatch dispatch).stop .interrupt
      interrupt) := by
  simp only [stop_eq]
  refine .halted _ c.startFailed _ id fun failed => ?_
  simp only [Bool.or_eq_false_iff, Bool.not_eq_eq_eq_not, Bool.not_false] at failed
  obtain ⟨⟨⟨⟨before, rfl⟩, rfl⟩, rfl⟩, rfl⟩ := failed
  refine ⟨before, fun name => ?_⟩
  cases name <;> simp

inductive Starts : Except DriverError Unit → Core → Prop
  | already (started : c.lifecycle.isStarted = true) : Starts (.ok ()) c
  | refused (e : DriverError) (away : c.lifecycle ≠ .present)
      (unstarted : c.lifecycle.isStarted = false) : Starts (.error e) c
  | undone (e : DriverError) {d : Core} (present : c.lifecycle = .present) (halts : c.Halts d) :
      Starts (.error e) d
  | begun (present : c.lifecycle = .present) : Starts (.ok ()) c.begun

/-- A client that cannot be served is detached again; the read loop is stopped for it. -/
inductive Attaches : Except DriverError Unit → Core → Prop
  | refused (e : DriverError) : Attaches (.error e) c
  | noRead (e : DriverError) (free : c.lifecycle = .started false) (ok : Bool) :
      Attaches (.error e) (c.engaged.failStart.stop .read ok).detached
  | noWrite (e : DriverError) (free : c.lifecycle = .started false) (ok : Bool) :
      Attaches (.error e) ((c.engaged.start .read).failStart.stop .read ok).detached
  | attached (free : c.lifecycle = .started false) : Attaches (.ok ()) c.engaged.serving

/-- The suspend flags are cleared last, and only when every loop could be started. -/
inductive Resumes : Except DriverError Unit → Core → Prop
  | noInterrupt (e : DriverError) (primary : c.mux.isPrimary = true) :
      Resumes (.error e) c.failStart
  | noRead (e : DriverError) (attached : c.lifecycle.inService = true) :
      Resumes (.error e) c.listening.failStart
  | noWrite (e : DriverError) (attached : c.lifecycle.inService = true) :
      Resumes (.error e) (c.listening.start .read).failStart
  | unattended (free : c.lifecycle.inService = false) : Resumes (.ok ()) c.listening.cleared
  | attended (attached : c.lifecycle.inService = true) :
      Resumes (.ok ()) c.listening.serving.cleared

inductive Quiesces : Core → Prop
  | already (low : c.power.lowPowerMode = true) : Quiesces c
  | stopped (high : c.power.lowPowerMode = false) (read write interrupt : Bool) :
      Quiesces (((c.suspending.stop .read read).stop .write write).stop .interrupt interrupt)

inductive Reinitializes : Except DriverError Unit → Core → Prop
  | refused (e : DriverError) {d : Core} (away : c.lifecycle ≠ .present)
      (unstarted : c.lifecycle.isStarted = false) (halts : c.Halts d) : Reinitializes (.error e) d
  | lost (e : DriverError) {d f : Core} (halts : c.Halts d)
      (starts : d.vacated.Starts (.error e) f) (there : c.lifecycle.isPresent = true) :
      Reinitializes (.error e) f
  | unattended {d f : Core} (free : c.lifecycle.inService = false) (halts : c.Halts d)
      (starts : d.vacated.Starts (.ok ()) f) (there : c.lifecycle.isPresent = true) :
      Reinitializes (.ok ()) f
  | attended {d f g : Core} {result : Except DriverError Unit}
      (attached : c.lifecycle.inService = true) (halts : c.Halts d)
      (starts : d.vacated.Starts (.ok ()) f) (attaches : f.Attaches result g) :
      Reinitializes result g

inductive SetsDevice (level : DevicePower) : Except DriverError Unit → Core → Prop
  | vetoed (e : DriverError) (low : level.isLow = true) : SetsDevice level (.error e) c
  | recorded (silent : c.signal level = none) : SetsDevice level (.ok ()) (c.recorded level)
  | standby {d : Core} (signal : c.signal level = some .standby)
      (quiesces : (c.recorded level).Quiesces d) : SetsDevice level (.ok ()) d
  | wakeup {d : Core} {result : Except DriverError Unit} (signal : c.signal level = some .wakeup)
      (resumes : (c.recorded level).Resumes result d) : SetsDevice level result d
  | reset {d : Core} {result : Except DriverError Unit}
      (signal : c.signal level = some .wakeupReset)
      (reinitializes : (c.recorded level).Reinitializes result d) : SetsDevice level result d

inductive HandlesPower : PowerRequest → Except DriverError Unit → Core → Prop
  | queryDevice (level : DevicePower) (result : Except DriverError Unit) :
      HandlesPower (.queryDevice level) result c
  | querySystem (level : SystemPower) : HandlesPower (.querySystem level) (.ok ()) c
  | setSystem (level : SystemPower) :
      HandlesPower (.setSystem level) (.ok ()) { c with power := c.power.setSystem level }
  | setDevice {level : DevicePower} {d : Core} {result : Except DriverError Unit}
      (sets : c.SetsDevice level result d) : HandlesPower (.setDevice level) result d

inductive Wakes : Except DriverError Unit → Core → Prop
  | awake (high : c.power.device.isLow = false) : Wakes (.ok ()) c
  | exhausted (e : DriverError) : Wakes (.error e) c
  | woken {d : Core} {result : Except DriverError Unit} (low : c.power.device.isLow = true)
      (sets : c.SetsDevice .d0 result d) : Wakes result d

inductive Opens : Except DriverError Unit → Core → Prop
  | refused (e : DriverError) : Opens (.error e) c
  | asleep (e : DriverError) {d : Core} (free : c.lifecycle = .started false)
      (wakes : c.Wakes (.error e) d) : Opens (.error e) d
  | awake {d f : Core} {result : Except DriverError Unit} (free : c.lifecycle = .started false)
      (wakes : c.Wakes (.ok ()) d) (attaches : d.Attaches result f) : Opens result f

inductive Closes : Core → Prop
  | unattended (free : c.lifecycle.inService = false) : Closes c
  | detached (attached : c.lifecycle = .started true) (write read : Bool) :
      Closes ((c.stop .write write).stop .read read).detached

inductive Stops : Except DriverError Unit → Core → Prop
  | refused (e : DriverError) {d f : Core} (closes : c.Closes d) (halts : d.Halts f)
      (away : d.lifecycle ≠ .present) (unstarted : d.lifecycle.isStarted = false) :
      Stops (.error e) f.untimed
  | stopped {d f : Core} (closes : c.Closes d) (halts : d.Halts f)
      (there : d.lifecycle.isPresent = true) :
      Stops (.ok ()) { f.untimed with lifecycle := .present }

inductive SurpriseRemoves : Core → Prop
  | removed {d : Core}
      (halts : ({ c with lifecycle := c.lifecycle.advance .surpriseRemove } : Core).Halts d) :
      SurpriseRemoves d.untimed

inductive ShutsDown : Core → Prop
  | removed {d f : Core} (closes : c.Closes d) (halts : d.Halts f) :
      ShutsDown { f with lifecycle := .removed }

inductive PollsIdle : Except DriverError Bool → Core → Prop
  | kept : PollsIdle (.ok false) c
  | exhausted (e : DriverError) (high : c.power.device.isLow = false) :
      PollsIdle (.error e) (c.untimed.idling true)
  | failed (e : DriverError) {d : Core} (high : c.power.device.isLow = false)
      (sets : (c.untimed.idling true).SetsDevice .d2 (.error e) d) :
      PollsIdle (.error e) (d.idling false)
  | suspended {d : Core} (high : c.power.device.isLow = false)
      (sets : (c.untimed.idling true).SetsDevice .d2 (.ok ()) d) : PollsIdle (.ok true) d

/-- A frame that cannot be built is found out only after the device was woken. -/
inductive Sends : Except DriverError Unit → Core → Prop
  | refused (e : DriverError) : Sends (.error e) c
  | asleep (e : DriverError) {d : Core} (attached : c.lifecycle.inService = true)
      (wakes : c.Wakes (.error e) d) : Sends (.error e) d
  | unframed (e : DriverError) {d : Core} (attached : c.lifecycle.inService = true)
      (wakes : c.Wakes (.ok ()) d) : Sends (.error e) d
  | sent {d : Core} (attached : c.lifecycle.inService = true) (wakes : c.Wakes (.ok ()) d) :
      Sends (.ok ()) d

/-- What an operation may do. -/
def Performs : Operation → Core → Prop
  | .start, d => ∃ result, c.Starts result d
  | .open, d => ∃ result, c.Opens result d
  | .close, d => c.Closes d
  | .stop, d => ∃ result, c.Stops result d
  | .surpriseRemove, d => c.SurpriseRemoves d
  | .shutdown, d => c.ShutsDown d
  | .send _ _, d => ∃ result, c.Sends result d
  | .pollIdle _, d => ∃ result, c.PollsIdle result d
  | .power request, d => ∃ result, c.HandlesPower request result d

end Core

end ModemLink
