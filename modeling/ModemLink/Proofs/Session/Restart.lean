import ModemLink.Proofs.Session.Parts
import ModemLink.Proofs.Session.PowerLoss
import ModemLink.Proofs.Session.Scope

/-!
# Restarts

A request for D0 that finds the device without power vacates it and starts it anew. A view that
overlooks power transitions sees nothing of any other request for a level.
-/

namespace ModemLink

open Act Footprint

variable {η γ : Type}

namespace Session

/-- D0 is accepted, and the device is at a low level, suspended for another reason than that it was
idle, and not removed. -/
def lost (session : Session η) : Bool :=
  (session.device.checkVeto .d0).isOk && session.device.power.device.isLow &&
    session.device.power.powerSuspended && !session.device.power.idleSuspended &&
    !session.device.lifecycle.isRemoved

/-- The session once a request for D0 was filtered and recorded. -/
def raised (session : Session η) : Session η :=
  { session with device := { session.device with
    power := (session.device.power.setDevice .d0).2
    pool := (session.device.pool.filter (.setDevice .d0)).2 } }

variable {session : Session η}

theorem lost_iff (arrived : session.device.lifecycle ≠ .absent) : session.lost = true ↔
    (session.device.power.setDevice .d0).1 = some .wakeupReset ∧
      session.device.lifecycle.isPresent = true := by
  have accepted : (session.device.checkVeto .d0).isOk = true := rfl
  have there : session.device.lifecycle.isPresent = !session.device.lifecycle.isRemoved := by
    cases state : session.device.lifecycle with
    | absent => exact absurd state arrived
    | _ => rfl
  -- Both sides are now the same test of level and flags.
  rw [there, PowerRecord.setDevice_signal]
  unfold Session.lost
  cases session.device.power.device.isLow <;>
    cases session.device.power.powerSuspended <;>
    cases session.device.power.idleSuspended <;> simp [accepted]

variable [Host η]

/-- What a restart does before it starts the device again; was a client attached? -/
def vacate : Act η Bool := do
  let wasOpen := (← Act.device).lifecycle.inService
  Act.stopAll ⟨51⟩ ⟨52⟩ ⟨53⟩ ⟨54⟩
  if wasOpen then Act.apply .closed
  Act.releaseInterfaces
  Act.apply .stop
  clearSuspend
  Act.attempt (Act.storeIncrement .ssrCounter)
  return wasOpen

theorem reinit_eq : (reinit : Act η Unit) = (do
    let wasOpen ← vacate
    start
    if wasOpen then attach) := by
  unfold reinit vacate
  simp only [bind_assoc]
  refine bind_congr fun d => bind_congr fun _ => ?_
  cases d.lifecycle.inService with
  | true => simp only [bind_assoc, pure_bind, if_true]
  | false => simp only [bind_assoc, pure_bind, if_false, Bool.false_eq_true]

/-- Only a device that is there can be started anew. -/
theorem leads_vacate {c : Core} : (vacate : Act η Bool).Leads c
    fun result _ => result.isOk = c.lifecycle.isPresent := by
  have stopped {d : Core} {wasOpen : Bool} (same : d.lifecycle.isPresent = c.lifecycle.isPresent) :
      (do
        releaseInterfaces
        apply .stop
        clearSuspend
        attempt (storeIncrement .ssrCounter)
        return wasOpen : Act η Bool).Leads d
          fun result _ => result.isOk = c.lifecycle.isPresent := by
    rw [← same]
    refine silent_releaseInterfaces.bind fun _ => Leads.bind (leads_apply ?_ ?_)
    · intro state moved
      rw [Lifecycle.isPresent_of_next_stop moved]
      refine Leads.bind (leads_clearSuspend ?_)
      exact (quiet_storeIncrement _).attempt.bind fun _ => leads_pure rfl
    · intro e refused
      obtain ⟨absent, unstarted⟩ := Lifecycle.next_stop_refused refused
      cases state : d.lifecycle with
      | present => exact absurd state absent
      | started => exact absurd (state ▸ unstarted) nofun
      | _ => rfl
  refine leads_device fun d shows => ?_
  rw [shows.lifecycle]
  refine Leads.bind (leads_stopAll ?_)
  rintro _ ⟨live, startFailed, stopFailed, start, stop⟩
  cases inService : c.lifecycle.inService with
  | false => exact stopped rfl
  | true =>
      have attached := Lifecycle.inService_iff.mp inService
      refine Leads.bind (leads_apply ?_ ?_)
      · intro state moved
        obtain ⟨-, rfl⟩ := Lifecycle.next_closed moved
        exact stopped (by rw [attached]; rfl)
      · intro e refused
        rw [show _ = _ from attached] at refused
        cases refused

end Session

open Session

namespace OverlooksPower

variable {view : Session η → γ} (overlooks : OverlooksPower view) [Host η]

include overlooks

/-- Only a request that finds the device without power shows in the view. -/
theorem view_setDevicePower {session : Session η} {level : DevicePower}
    (kept : (session.device.power.setDevice level).1 ≠ some .wakeupReset) :
    view ((setDevicePower level : Act η Unit).exec session).2 = view session := by
  have filtered : view (session.filtered level) = view session :=
    overlooks.device session ⟨rfl, rfl, rfl, rfl⟩
  cases verdict : session.device.checkVeto level with
  | error e => rw [exec_setDevice_vetoed verdict, filtered]
  | ok _ =>
      have accepted : (session.filtered level).device.checkVeto level = .ok () := verdict
      change view ((filterRequest (.setDevice level) >>= fun disposition =>
        recordDevicePower level >>= carryOut level disposition : Act η Unit).exec session).2 = _
      rw [exec_bind_ok (exec_filter session level), exec_bind_ok (exec_recordDevicePower accepted)]
      refine (overlooks.spares_carryOut kept _ _).trans ?_
      exact (overlooks.power (session.filtered level) _).trans filtered

end OverlooksPower

end ModemLink
