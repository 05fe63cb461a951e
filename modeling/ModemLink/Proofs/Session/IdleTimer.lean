import Mathlib.Control.Monad.Basic
import ModemLink.Proofs.Session.Tenancy
import ModemLink.Scripted

/-!
# The idle timer

The timer is armed when a client leaves a started device, and `open`, `stop` and `surpriseRemove`
disarm it. A shutdown and a restart that fails leave the started states with the timer armed, and
the next poll suspends a device that is no longer started.
-/

namespace ModemLink

namespace Tenancy

variable {t u : Tenancy} {operation : Operation}

/-- The device is started no longer, and nobody has looked after its timer. -/
def leavesTimer (t : Tenancy) (operation : Operation) (u : Tenancy) : Bool :=
  match operation with
  | .power _ | .open => t.lifecycle == .started false && !u.lifecycle.isStarted
  | .shutdown => t.lifecycle.isStarted
  | _ => false

/-- The timer runs on a started device without a client only. -/
def Timed (t : Tenancy) : Prop := t.idleDeadline.isSome = true → t.lifecycle = .started false

namespace Timed

theorem untimed (none : t.idleDeadline = none) : t.Timed := by
  intro armed
  rw [none] at armed
  cases armed

theorem idleDeadline (timed : t.Timed) (away : t.lifecycle ≠ .started false) :
    t.idleDeadline = none :=
  Option.not_isSome_iff_eq_none.mp fun armed => away (timed armed)

theorem attaches (timed : t.Timed) (attaches : t.Attaches u) : u.Timed := by
  cases attaches with
  | refused => exact timed
  | abandoned => exact fun _ => rfl
  | attached => exact untimed rfl

theorem wakes (timed : t.Timed) (wakes : t.Wakes u)
    (kept : t.lifecycle = .started false → u.lifecycle.isStarted = true) : u.Timed := by
  cases wakes with
  | kept => exact timed
  | lost there => exact untimed (timed.idleDeadline fun free => absurd (kept free) Bool.false_ne_true)
  | restarted => exact fun _ => rfl
  | reattached attached attaches =>
      have vacant : ({ t with lifecycle := .started false } : Tenancy).Timed := fun _ => rfl
      exact vacant.attaches attaches

theorem closes (timed : t.Timed) (closes : t.Closes u) : u.Timed := by
  cases closes with
  | unattended => exact timed
  | detached => exact fun _ => rfl

theorem moves (timed : t.Timed) (moves : t.Moves operation u)
    (kept : t.leavesTimer operation u = false) : u.Timed := by
  cases moves with
  | stays => exact timed
  | starts => exact fun _ => rfl
  | @opens w _ free wakes attaches =>
      -- An attachment to a device that is started no longer changes nothing.
      have started : w.lifecycle.isStarted = true := by
        have ended : u.lifecycle.isStarted = true := by
          simpa [leavesTimer, free] using kept
        cases attaches with
        | refused => exact ended
        | abandoned again | attached again =>
            rw [again]
            rfl
      exact (timed.wakes wakes fun _ => started).attaches attaches
  | closes closes => exact timed.closes closes
  | stopRefused | stops | surpriseRemoves | polls => exact untimed rfl
  | shutsDown closes =>
      have unstarted : t.lifecycle.isStarted = false := kept
      cases closes with
      | unattended free =>
          refine untimed (timed.idleDeadline fun vacant => ?_)
          rw [vacant] at unstarted
          cases unstarted
      | detached attached =>
          rw [attached] at unstarted
          cases unstarted
  | sends channel payload attached wakes =>
      refine timed.wakes wakes fun vacant => ?_
      rw [vacant] at attached
      cases attached
  | powers request wakes =>
      refine timed.wakes wakes fun vacant => ?_
      simpa [leavesTimer, vacant] using kept

end Timed

end Tenancy

namespace Session

open Act

variable {η : Type} [Host η]

/-! ## Polls -/

section Polls

variable {session : Session η} {now : Nat}

theorem exec_pollIdle_unexpired (waits : session.device.idleExpired now = false) :
    (pollIdle now : Act η Bool).exec session = (.ok false, session) := by
  unfold pollIdle
  rw [exec_bind_ok (exec_device session), waits]
  rfl

theorem exec_pollIdle_expired (expired : session.device.idleExpired now = true) :
    (pollIdle now : Act η Bool).exec session =
      (do suspendIdle; return true : Act η Bool).exec session := by
  unfold pollIdle
  rw [exec_bind_ok (exec_device session), expired]
  rfl

theorem exec_pollIdle_untimed (untimed : session.device.power.idleDeadline = none) (now : Nat) :
    (pollIdle now : Act η Bool).exec session = (.ok false, session) :=
  exec_pollIdle_unexpired (by simp [Device.idleExpired, untimed])

end Polls

/-- The idle timer never runs with a client attached. It runs on a started device only, and a poll
in any other state does nothing at all, if only no shutdown and no failed restart of the run has
left a running timer behind. -/
theorem idle_timer_runs_unattended (key : AdapterKey) (host : η) (store : Store)
    (options : SessionOptions) (happenings : List Happening) {session : Session η}
    (reached : (create key host store options).through happenings = session) :
    (session.device.lifecycle.inService = true → session.device.power.idleDeadline = none ∧
        ∀ now, (pollIdle now).exec session = (.ok false, session)) ∧
      ((create key host store options).shuns Tenancy.leavesTimer happenings = true →
        (session.device.power.idleDeadline.isSome = true →
            session.device.lifecycle = .started false) ∧
          (session.device.lifecycle ≠ .started false →
            ∀ now, (pollIdle now).exec session = (.ok false, session))) := by
  have restrained : session.tenancy.Restrained :=
    (reached ▸ through_granted key host store options happenings).restrained
  refine ⟨fun attached => ?_, fun shuns => ?_⟩
  · have untimed : session.device.power.idleDeadline = none := restrained.idleDeadline attached
    exact ⟨untimed, exec_pollIdle_untimed untimed⟩
  · have timed : session.tenancy.Timed := by
      rw [← reached]
      have first : (create key host store options).tenancy.Timed := .untimed rfl
      exact through_tenancy Tenancy.Timed.moves _ happenings first shuns
    exact ⟨timed, fun away => exec_pollIdle_untimed (timed.idleDeadline away)⟩

/-- A restart that fails for an attached client leaves no timer, though one ran before. -/
theorem idle_timer_runs_unattended_restart_failed :
    let modem : ScriptedModem :=
      { injected := .replicate 6 (.getDescriptor, .pass) ++ [(.getDescriptor, .fail .io)] }
    let session := (create ⟨220, 12, 0⟩ modem {} { idleTimeout := some 0 }).run
      [.start, .open, .close, .open, .power (.setSystem .sleeping3), .power (.setDevice .d3),
        .power (.setSystem .working), .power (.setDevice .d0)]
    session.device.lifecycle = .present ∧ session.device.power.idleDeadline = none ∧
      ∀ now, (pollIdle now).exec session = (.ok false, session) := by
  intro modem session
  have reached : _ = session := through_operations _ _
  obtain ⟨-, timer⟩ := idle_timer_runs_unattended _ modem _ _ _ reached
  obtain ⟨armed, polls⟩ := timer (by decide +kernel)
  have away : session.device.lifecycle = .present := by decide +kernel
  have vacant : session.device.lifecycle ≠ .started false := by
    rw [away]
    nofun
  have untimed := Option.not_isSome_iff_eq_none.mp fun running => vacant (armed running)
  exact ⟨away, untimed, polls vacant⟩

/-- A shutdown detaches the client and leaves the timer that this starts, and a restart that fails
leaves the timer of a device without a client. The next poll suspends either device to D2. -/
theorem idle_timer_runs_unstarted :
    let shut := (create ⟨220, 12, 0⟩ ({} : ScriptedModem) {} { idleTimeout := some 0 }).run
      [.start, .open, .shutdown]
    let modem : ScriptedModem :=
      { injected := .replicate 6 (.getDescriptor, .pass) ++ [(.getDescriptor, .fail .io)] }
    let lost := (create ⟨220, 12, 0⟩ modem {} { idleTimeout := some 0 }).run
      [.start, .open, .close, .power (.setSystem .sleeping3), .power (.setDevice .d3),
        .power (.setSystem .working), .power (.setDevice .d0)]
    (shut.device.lifecycle = .removed ∧ shut.device.power.idleDeadline = some 0 ∧
      ((pollIdle 1000).exec shut).1 = .ok true ∧
      ((pollIdle 1000).exec shut).2.device.power.device = .d2) ∧
    lost.device.lifecycle = .present ∧ lost.device.power.idleDeadline = some 0 ∧
      ((pollIdle 1000).exec lost).1 = .ok true ∧
      ((pollIdle 1000).exec lost).2.device.power.device = .d2 := by
  intro shut modem lost
  constructor
  · decide +kernel
  · decide +kernel

end Session

end ModemLink
