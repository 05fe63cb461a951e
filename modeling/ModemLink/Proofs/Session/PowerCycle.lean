import Mathlib.Control.Monad.Basic
import ModemLink.Proofs.Session.Invariant
import ModemLink.Scripted

/-!
# Power cycles

A power request that is carried out leaves a started device as it found it, client included, even if
the device had to be enumerated anew; one that fails costs the client or the start at most. A device
that is not started stays so, unless it was suspended as a present one and is woken.
-/

namespace ModemLink

theorem Lifecycle.started_inService {state : Lifecycle} (started : state.isStarted = true) :
    .started state.inService = state := by
  cases state with
  | started inService => cases inService <;> rfl
  | _ => cases started

namespace Core

variable {c d : Core} {level : DevicePower} {request : PowerRequest} {e : DriverError}
  {result : Except DriverError Unit}

/-! ## Lifecycles -/

theorem Starts.lifecycle (unstarted : c.lifecycle.isStarted = false)
    (starts : c.Starts (.ok ()) d) : d.lifecycle = .started false := by
  cases starts with
  | already started => exact absurd (started.symm.trans unstarted) nofun
  | begun present => rw [begun_eq]

theorem Starts.lifecycle_of_error (starts : c.Starts (.error e) d) :
    d.lifecycle = c.lifecycle := by
  cases starts with
  | refused => rfl
  | undone _ present halts => exact halts.lifecycle

theorem Attaches.lifecycle (attaches : c.Attaches (.ok ()) d) : d.lifecycle = .started true := by
  cases attaches with
  | attached free => rfl

theorem Attaches.lifecycle_of_error (attaches : c.Attaches (.error e) d) :
    d.lifecycle = c.lifecycle := by
  cases attaches with
  | refused => rfl
  | noRead _ free | noWrite _ free => exact free.symm

theorem Resumes.lifecycle (resumes : c.Resumes result d) : d.lifecycle = c.lifecycle := by
  cases resumes with
  | noInterrupt => rfl
  | _ =>
      rw [listening_eq]
      rfl

theorem Quiesces.lifecycle (quiesces : c.Quiesces d) : d.lifecycle = c.lifecycle := by
  cases quiesces with
  | already => rfl
  | stopped =>
      simp only [stop_eq]
      rfl

/-- The device is started anew, with a client just if it had one. -/
theorem Reinitializes.lifecycle (reinitializes : c.Reinitializes (.ok ()) d) :
    d.lifecycle = .started c.lifecycle.inService := by
  cases reinitializes with
  | unattended free halts starts =>
      rw [free]
      exact starts.lifecycle rfl
  | attended attached halts starts attaches =>
      rw [attached]
      exact attaches.lifecycle

theorem Reinitializes.lifecycle_of_error (there : c.lifecycle.isPresent = true)
    (reinitializes : c.Reinitializes (.error e) d) :
    d.lifecycle = .present ∨ d.lifecycle = .started false := by
  cases reinitializes with
  | refused _ away unstarted halts =>
      cases state : c.lifecycle with
      | present => exact absurd state away
      | _ => simp_all [Lifecycle.isPresent, Lifecycle.isStarted]
  | lost _ halts starts => exact .inl starts.lifecycle_of_error
  | attended attached halts starts attaches =>
      rw [attaches.lifecycle_of_error]
      exact .inr (starts.lifecycle rfl)

/-- What is neither present nor started is not started by an enumeration. -/
theorem Reinitializes.lifecycle_away (away : c.lifecycle.isPresent = false)
    (reinitializes : c.Reinitializes result d) : d.lifecycle = c.lifecycle := by
  cases reinitializes with
  | refused _ _ _ halts => exact halts.lifecycle
  | lost _ _ _ there | unattended _ _ _ there => exact absurd (away.symm.trans there) nofun
  | attended attached =>
      have started := Lifecycle.isStarted_of_inService attached
      exact absurd (away.symm.trans (Lifecycle.isPresent_of_isStarted started)) nofun

/-- Nothing but an enumeration changes the lifecycle. -/
theorem SetsDevice.lifecycle (sets : c.SetsDevice level result d) : d.lifecycle = c.lifecycle ∨
    c.signal level = some .wakeupReset ∧ (c.recorded level).Reinitializes result d := by
  cases sets with
  | vetoed | recorded => exact .inl rfl
  | standby signal quiesces => exact .inl quiesces.lifecycle
  | wakeup signal resumes => exact .inl resumes.lifecycle
  | reset signal reinitializes => exact .inr ⟨signal, reinitializes⟩

/-! ## Started devices -/

theorem SetsDevice.restores (started : c.lifecycle.isStarted = true)
    (sets : c.SetsDevice level (.ok ()) d) : d.lifecycle = c.lifecycle := by
  obtain same | ⟨-, reinitializes⟩ := sets.lifecycle
  · exact same
  · rw [reinitializes.lifecycle]
    exact Lifecycle.started_inService started

theorem SetsDevice.loses (started : c.lifecycle.isStarted = true)
    (sets : c.SetsDevice level (.error e) d) :
    d.lifecycle = c.lifecycle ∨ d.lifecycle = .present ∨ d.lifecycle = .started false := by
  obtain same | ⟨-, reinitializes⟩ := sets.lifecycle
  · exact .inl same
  · have there : (c.recorded level).lifecycle.isPresent = true :=
      Lifecycle.isPresent_of_isStarted started
    exact .inr (reinitializes.lifecycle_of_error there)

theorem HandlesPower.restores (started : c.lifecycle.isStarted = true)
    (handles : c.HandlesPower request (.ok ()) d) : d.lifecycle = c.lifecycle := by
  cases handles with
  | queryDevice | querySystem | setSystem => rfl
  | setDevice sets => exact sets.restores started

theorem HandlesPower.loses (started : c.lifecycle.isStarted = true)
    (handles : c.HandlesPower request (.error e) d) :
    d.lifecycle = c.lifecycle ∨ d.lifecycle = .present ∨ d.lifecycle = .started false := by
  cases handles with
  | queryDevice => exact .inl rfl
  | setDevice sets => exact sets.loses started

/-! ## Devices that are not started -/

/-- A wake finds a present device suspended, and not for being idle: it is taken for one that lost
its power. -/
def restartsUnstarted (c : Core) : Operation → Bool
  | .power (.setDevice .d0) => c.lifecycle == .present && c.power.device.isLow &&
      c.power.powerSuspended && !c.power.idleSuspended
  | _ => false

theorem signal_lost (signal : c.signal level = some .wakeupReset) : level = .d0 ∧
    c.power.device.isLow = true ∧ c.power.powerSuspended = true ∧
      c.power.idleSuspended = false := by
  have known : (c.power.setDevice level).1 = some .wakeupReset := signal
  rw [PowerRecord.setDevice_signal] at known
  split_ifs at known <;> simp_all

theorem SetsDevice.keeps (unstarted : c.lifecycle.isStarted = false)
    (safe : c.restartsUnstarted (.power (.setDevice level)) = false)
    (sets : c.SetsDevice level result d) : d.lifecycle = c.lifecycle := by
  obtain same | ⟨signal, reinitializes⟩ := sets.lifecycle
  · exact same
  · apply reinitializes.lifecycle_away
    obtain ⟨rfl, low, suspended, busy⟩ := signal_lost signal
    have away : c.lifecycle ≠ .present := by
      rintro present
      simp [restartsUnstarted, present, low, suspended, busy] at safe
    cases state : c.lifecycle with
    | present => exact absurd state away
    | started inService => simp [state, Lifecycle.isStarted] at unstarted
    | _ => exact congrArg Lifecycle.isPresent state

theorem HandlesPower.keeps (unstarted : c.lifecycle.isStarted = false)
    (safe : c.restartsUnstarted (.power request) = false)
    (handles : c.HandlesPower request result d) : d.lifecycle = c.lifecycle := by
  cases handles with
  | queryDevice | querySystem | setSystem => rfl
  | setDevice sets => exact sets.keeps unstarted safe

end Core

/-- It calls the session with nothing but a power request. -/
def Happening.isPower : Happening → Bool
  | .operation (.power _) | .loop _ | .transfers _ => true
  | .operation _ => false

namespace Session

variable {η : Type} [Host η]

/-- Whatever the host answers, a request that is carried out leaves a started device with just the
client it had; one that fails leaves it so, or without a client. -/
theorem power_cycle_restores (session : Session η) (request : PowerRequest) {attached : Bool}
    (started : session.device.lifecycle = .started attached) {result : Except DriverError Unit}
    {after : Session η} (ended : (handlePower request).exec session = (result, after)) :
    (result = .ok () → after.device.lifecycle = .started attached) ∧
      ∀ e, result = .error e → after.device.lifecycle = .started attached ∨
        after.device.lifecycle = .present ∨ after.device.lifecycle = .started false := by
  have handles : session.core.HandlesPower request _ ((handlePower request).exec session).2.core :=
    leads_handlePower session rfl
  rw [ended] at handles
  have before : session.core.lifecycle.isStarted = true := congrArg Lifecycle.isStarted started
  rw [← started]
  constructor
  · rintro rfl
    exact handles.restores before
  · rintro e rfl
    exact handles.loses before

/-- A client is attached again after a sleep that cost the device its power, and is lost if the
device cannot be enumerated then. -/
theorem power_cycle_restores_after_sleep :
    let asleep := (create ⟨220, 17, 0⟩ ({} : ScriptedModem) {} {}).run
      [.start, .open, .power (.setSystem .sleeping3), .power (.setDevice .d3),
        .power (.setSystem .working)]
    let lost := { asleep with host := asleep.host.inject .getDescriptor [.fail .io] }
    let woken := ((handlePower (.setDevice .d0)).exec asleep).2
    let failed := ((handlePower (.setDevice .d0)).exec lost).2
    woken.device.lifecycle = .started true ∧
      woken.store.get .ssrCounter = .ok (some (.number 1)) ∧
      (failed.device.lifecycle = .started true ∨ failed.device.lifecycle = .present ∨
        failed.device.lifecycle = .started false) := by
  intro asleep lost woken failed
  have started : asleep.device.lifecycle = .started true := by decide +kernel
  have wakes : (handlePower (.setDevice .d0)).exec asleep = (.ok (), woken) :=
    Act.exec_of_result (by decide +kernel)
  have fails : (handlePower (.setDevice .d0)).exec lost = (.error (.transport .io), failed) :=
    Act.exec_of_result (by decide +kernel)
  exact ⟨(power_cycle_restores asleep _ started wakes).1 rfl, by decide +kernel,
    (power_cycle_restores lost _ started fails).2 _ rfl⟩

omit [Host η] in
theorem evades_of_absent {session : Session η} (absent : session.core.lifecycle ≠ .present)
    (happening : Happening) : happening.evades session.core.restartsUnstarted = true := by
  cases happening with
  | loop | transfers => rfl
  | operation operation =>
      simp only [Happening.evades, Core.restartsUnstarted]
      split <;> simp [absent]

theorem next_unstarted {session : Session η} {happening : Happening}
    (unstarted : session.core.lifecycle.isStarted = false) (power : happening.isPower = true)
    (evades : happening.evades session.core.restartsUnstarted = true) :
    (session.next happening).core.lifecycle = session.core.lifecycle := by
  obtain same | ⟨operation, rfl, performs⟩ := session.next_core happening
  · rw [same]
  · cases operation with
    | power request =>
        obtain ⟨result, handles⟩ := performs
        exact handles.keeps unstarted ((Bool.not_eq_true' _).mp evades)
    | _ => cases power

/-- While power requests are all that comes, a device that is not started keeps its lifecycle,
provided that no wake finds it present and suspended other than for being idle. -/
theorem power_requests_start_nothing (session : Session η) (happenings : List Happening)
    (requests : happenings.all Happening.isPower = true)
    (unstarted : session.device.lifecycle.isStarted = false)
    (avoids : session.device.lifecycle = .present →
      session.avoids Core.restartsUnstarted happenings = true) :
    (session.through happenings).device.lifecycle = session.device.lifecycle := by
  induction happenings generalizing session with
  | nil => rfl
  | cons happening happenings ih =>
      obtain ⟨power, requests⟩ := Bool.and_eq_true_iff.mp requests
      have evades : happening.evades session.core.restartsUnstarted = true := by
        by_cases present : session.device.lifecycle = .present
        · exact (Bool.and_eq_true_iff.mp (avoids present)).1
        · exact evades_of_absent present happening
      have same : (session.next happening).device.lifecycle = session.device.lifecycle :=
        next_unstarted unstarted power evades
      refine (ih _ requests (by rwa [same]) fun present => ?_).trans same
      exact (Bool.and_eq_true_iff.mp (avoids (same.symm.trans present))).2

/-- A device that was stopped in an idle suspend is woken, lowered and woken while it is removed. -/
theorem power_requests_start_nothing_after_stop :
    let stopped := (create ⟨220, 18, 0⟩ ({} : ScriptedModem) {} { idleTimeout := some 0 }).run
      [.start, .open, .close, .pollIdle 1000, .stop]
    let removed := (create ⟨220, 18, 0⟩ ({} : ScriptedModem) {} {}).run [.start, .surpriseRemove]
    (stopped.run ([.setSystem .sleeping3, .setDevice .d0].map .power)).device.lifecycle =
        .present ∧
      (removed.run ([.setDevice .d3, .setDevice .d0].map .power)).device.lifecycle =
        .surpriseRemoved := by
  intro stopped removed
  have away : removed.device.lifecycle = .surpriseRemoved := by decide +kernel
  have present : stopped.device.lifecycle = .present := by decide +kernel
  rw [← through_operations, ← through_operations]
  refine ⟨present ▸ power_requests_start_nothing stopped _ rfl ?_ fun _ => by decide +kernel,
    away ▸ power_requests_start_nothing removed _ rfl ?_ fun present => ?_⟩
  · rw [present]
    rfl
  · rw [away]
    rfl
  · exact absurd (away.symm.trans present) nofun

/-- A device that was stopped at a low level is started when it is woken, and so is one that was
never started. -/
theorem woken_unstarted_is_started :
    let stopped := (create ⟨220, 18, 0⟩ ({} : ScriptedModem) {} {}).run
      [.start, .power (.setDevice .d3), .stop]
    let new := create ⟨220, 18, 1⟩ ({} : ScriptedModem) {} {}
    stopped.device.lifecycle = .present ∧
      (stopped.after (.power (.setDevice .d0))).device.lifecycle = .started false ∧
      new.device.lifecycle = .present ∧
      (new.run ([.setDevice .d3, .setDevice .d0].map .power)).device.lifecycle =
        .started false := by
  decide +kernel

end Session

end ModemLink
