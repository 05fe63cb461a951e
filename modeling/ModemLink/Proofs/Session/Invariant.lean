import ModemLink.Proofs.Session.Conduct
import ModemLink.Proofs.Session.Refinement

/-!
# Invariants of the operations

What makes a property of cores hold all along a run: a clause for each outcome that the operations
share (`Core.Stable`), from which each operation preserves it, and then every run.
-/

namespace ModemLink

namespace Core

variable {c d : Core} {level : DevicePower} {result : Except DriverError Unit}

/-! ## Levels -/

theorem Halts.lifecycle (halts : c.Halts d) : d.lifecycle = c.lifecycle := by
  cases halts with
  | halted => rfl

theorem Halts.power (halts : c.Halts d) : d.power = c.power := by
  cases halts with
  | halted => rfl

theorem Halts.high (high : c.power.device.isLow = false) (halts : c.Halts d) :
    d.vacated.power.device.isLow = false := by
  rw [← halts.power] at high
  exact high

theorem Starts.high (high : c.power.device.isLow = false) (starts : c.Starts result d) :
    d.power.device.isLow = false := by
  cases starts with
  | already | refused => exact high
  | undone e present halts => exact halts.high high
  | begun present =>
      rw [begun_eq]
      rfl

theorem Attaches.device (attaches : c.Attaches result d) : d.power.device = c.power.device := by
  cases attaches with
  | noRead e free ok | noWrite e free ok =>
      rw [stop_eq]
      rfl
  | _ => rfl

theorem Resumes.device (resumes : c.Resumes result d) : d.power.device = c.power.device := by
  cases resumes with
  | noInterrupt => rfl
  | _ =>
      rw [listening_eq]
      rfl

theorem Quiesces.device (quiesces : c.Quiesces d) : d.power.device = c.power.device := by
  cases quiesces with
  | already => rfl
  | stopped high read write interrupt =>
      simp only [stop_eq]
      rfl

theorem Reinitializes.high (high : c.power.device.isLow = false)
    (reinitializes : c.Reinitializes result d) : d.power.device.isLow = false := by
  cases reinitializes with
  | refused e away unstarted halts => exact halts.high high
  | lost e halts starts => exact starts.high (halts.high high)
  | unattended free halts starts => exact starts.high (halts.high high)
  | attended attached halts starts attaches =>
      rw [attaches.device]
      exact starts.high (halts.high high)

/-- A low level that is accepted is the level from then on. -/
theorem SetsDevice.device (low : level.isLow = true) (sets : c.SetsDevice level (.ok ()) d) :
    d.power.device = level := by
  cases sets with
  | recorded silent => exact recorded_device
  | standby signal quiesces => rw [quiesces.device, recorded_device]
  | wakeup signal resumes => rw [resumes.device, recorded_device]
  | reset signal reinitializes =>
      obtain ⟨rfl, -⟩ := signal_wakeupReset signal
      exact absurd low nofun

theorem Wakes.high (wakes : c.Wakes (.ok ()) d) : d.power.device.isLow = false := by
  cases wakes with
  | awake high => exact high
  | woken low sets =>
      cases sets with
      | recorded silent => exact recorded_d0_high
      | standby signal quiesces => exact absurd (signal_standby signal).1 nofun
      | wakeup signal resumes =>
          rw [resumes.device]
          exact recorded_d0_high
      | reset signal reinitializes => exact reinitializes.high recorded_d0_high

/-! ## Stable properties -/

/-- Every outcome preserves the property, unless its operation meets the hazard. An idle suspend
meets none, nor does a wake of a started device. -/
structure Stable (Invariant : Core → Prop) (hazard : Core → Operation → Bool) : Prop where
  starts {c d : Core} {result : Except DriverError Unit} (holds : Invariant c)
    (safe : hazard c .start = false) (starts : c.Starts result d) : Invariant d
  attaches {c d : Core} {result : Except DriverError Unit} (holds : Invariant c)
    (high : c.power.device.isLow = false) (attaches : c.Attaches result d) : Invariant d
  closes {c d : Core} (holds : Invariant c) (closes : c.Closes d) : Invariant d
  /-- With all loops stopped the device may leave the started states. -/
  halted {c d : Core} {before lifecycle : Lifecycle} (holds : Invariant c)
    (halts : ({ c with lifecycle := before } : Core).Halts d)
    (unstarted : lifecycle.isStarted = false) : Invariant { d with lifecycle }
  untimed {c : Core} (holds : Invariant c) : Invariant c.untimed
  idling {c : Core} {idle : Bool} (holds : Invariant c) : Invariant (c.idling idle)
  setsSystem {c : Core} {level : SystemPower} (holds : Invariant c) :
    Invariant { c with power := c.power.setSystem level }
  setsDevice {c d : Core} {level : DevicePower} {result : Except DriverError Unit}
    (holds : Invariant c) (safe : hazard c (.power (.setDevice level)) = false)
    (sets : c.SetsDevice level result d) : Invariant d
  suspendable (c : Core) : hazard c (.power (.setDevice .d2)) = false
  wakeable {c : Core} (started : c.lifecycle.isStarted = true) :
    hazard c (.power (.setDevice .d0)) = false

namespace Stable

variable {Invariant : Core → Prop} {hazard : Core → Operation → Bool}

theorem halts (stable : Stable Invariant hazard) {before : Lifecycle} (holds : Invariant c)
    (halts : ({ c with lifecycle := before } : Core).Halts d)
    (unstarted : before.isStarted = false) : Invariant d := by
  refine stable.halted holds halts ?_
  rw [halts.lifecycle]
  exact unstarted

theorem wakes (stable : Stable Invariant hazard) (holds : Invariant c)
    (started : c.lifecycle.isStarted = true) (wakes : c.Wakes result d) : Invariant d := by
  cases wakes with
  | awake | exhausted => exact holds
  | woken low sets => exact stable.setsDevice holds (stable.wakeable started) sets

theorem opens (stable : Stable Invariant hazard) (holds : Invariant c)
    (opens : c.Opens result d) : Invariant d := by
  cases opens with
  | refused e => exact holds
  | asleep e free wakes => exact stable.wakes holds (by rw [free]; rfl) wakes
  | awake free wakes attaches =>
      have awake := stable.wakes holds (by rw [free]; rfl) wakes
      exact stable.attaches awake wakes.high attaches

theorem stops (stable : Stable Invariant hazard) (holds : Invariant c)
    (stops : c.Stops result d) : Invariant d := by
  cases stops with
  | refused e closes halts away unstarted =>
      exact stable.untimed (stable.halts (stable.closes holds closes) halts unstarted)
  | stopped closes halts =>
      exact stable.untimed (stable.halted (stable.closes holds closes) halts rfl)

theorem pollsIdle {result : Except DriverError Bool} (stable : Stable Invariant hazard)
    (holds : Invariant c) (polls : c.PollsIdle result d) : Invariant d := by
  have idling : Invariant (c.untimed.idling true) := stable.idling (stable.untimed holds)
  have suspends {result : Except DriverError Unit} {f : Core} :
      (c.untimed.idling true).SetsDevice .d2 result f → Invariant f :=
    stable.setsDevice idling (stable.suspendable _)
  cases polls with
  | kept => exact holds
  | exhausted e high => exact idling
  | failed e high sets => exact stable.idling (suspends sets)
  | suspended high sets => exact suspends sets

theorem sends (stable : Stable Invariant hazard) (holds : Invariant c)
    (sends : c.Sends result d) : Invariant d := by
  have awake {result : Except DriverError Unit} (attached : c.lifecycle.inService = true) :
      c.Wakes result d → Invariant d :=
    stable.wakes holds (Lifecycle.isStarted_of_inService attached)
  cases sends with
  | refused e => exact holds
  | asleep e attached wakes => exact awake attached wakes
  | unframed e attached wakes => exact awake attached wakes
  | sent attached wakes => exact awake attached wakes

theorem performs (stable : Stable Invariant hazard) {operation : Operation} (holds : Invariant c)
    (safe : hazard c operation = false) (performs : c.Performs operation d) : Invariant d := by
  cases operation with
  | start =>
      obtain ⟨result, starts⟩ := performs
      exact stable.starts holds safe starts
  | «open» =>
      obtain ⟨result, opens⟩ := performs
      exact stable.opens holds opens
  | close => exact stable.closes holds performs
  | stop =>
      obtain ⟨result, stops⟩ := performs
      exact stable.stops holds stops
  | surpriseRemove =>
      obtain ⟨halts⟩ := performs
      exact stable.untimed (stable.halts holds halts c.lifecycle.advance_surpriseRemove)
  | shutdown =>
      obtain ⟨closes, halts⟩ := performs
      exact stable.halted (stable.closes holds closes) halts rfl
  | send channel payload =>
      obtain ⟨result, sends⟩ := performs
      exact stable.sends holds sends
  | pollIdle now =>
      obtain ⟨result, polls⟩ := performs
      exact stable.pollsIdle holds polls
  | power request =>
      obtain ⟨result, handles⟩ := performs
      cases handles with
      | queryDevice | querySystem => exact holds
      | setSystem level => exact stable.setsSystem holds
      | setDevice sets => exact stable.setsDevice holds safe sets

end Stable

end Core

namespace Session

open Footprint

variable {η : Type} [Host η]

/-! ## Runs -/

theorem traffic_misses_core : traffic.Misses (Session.core : Session η → Core) := by
  intro change s t allowed makes
  cases makes with
  | event _ event =>
      have sound : event.isFailedStart = false ∧ event.isFailedStop = false := by
        cases event with
        | startLoop | stopLoop => cases allowed
        | _ => exact ⟨rfl, rfl⟩
      simp [Session.core, sound]
  | host | queues | details => rfl
  | _ => cases allowed

/-- Between two operations the core stays as it is. -/
theorem next_core (session : Session η) (happening : Happening) :
    (session.next happening).core = session.core ∨
      ∃ operation, happening = .operation operation ∧
        session.core.Performs operation (session.next happening).core := by
  obtain same | ⟨operation, rfl⟩ := next_of_misses traffic_misses_core session happening
  · exact .inl same
  · exact .inr ⟨operation, rfl, session.after_performs operation⟩

/-- No operation of the run meets the hazard in the session that it finds. -/
def avoids (hazard : Core → Operation → Bool) (session : Session η)
    (happenings : List Happening) : Bool :=
  session.along (fun session happening => happening.evades (hazard session.core)) happenings

theorem avoids_never (session : Session η) (happenings : List Happening) :
    session.avoids (fun _ _ => false) happenings = true :=
  along_evades_never session happenings

/-- A stable property of the first core holds all along a run that meets no hazard. -/
theorem through_stable {Invariant : Core → Prop} {hazard : Core → Operation → Bool}
    (stable : Core.Stable Invariant hazard) (session : Session η) (happenings : List Happening)
    (initially : Invariant session.core) (avoids : session.avoids hazard happenings = true) :
    Invariant (session.through happenings).core := by
  have next (session : Session η) (happening : Happening) (holds : Invariant session.core)
      (evades : happening.evades (hazard session.core) = true) :
      Invariant (session.next happening).core := by
    obtain same | ⟨operation, rfl, performs⟩ := session.next_core happening
    · rwa [same]
    · exact stable.performs holds ((Bool.not_eq_true' _).mp evades) performs
  exact through_invariant next session happenings initially avoids

end Session

end ModemLink
