import ModemLink.Proofs.Session.Conduct
import ModemLink.Proofs.Session.Outcome
import ModemLink.Proofs.Session.Parts
import ModemLink.Scripted

/-!
# Removal is final

No lifecycle event leads out of the removed states, and there every way to bring a device up ends in
an error. What is asked of a removed session, and what its loops still do, goes on without effect.
-/

namespace ModemLink

open Act

variable {η α : Type}

/-- A sign of life: a configuration is selected or a start is reported. -/
def Event.isRevival : Event → Bool
  | .selectConfiguration .. | .notify (.deviceStarted _) => true
  | _ => false

structure Epitaph where
  lifecycle : Lifecycle
  revivals : List Event

def Session.epitaph (session : Session η) : Epitaph where
  lifecycle := session.device.lifecycle
  revivals := session.trace.toList.filter Event.isRevival

namespace Epitaph

theorem traced (session : Session η) {event : Event} (lifeless : event.isRevival = false) :
    ({ session with trace := session.trace.push event } : Session η).epitaph = session.epitaph := by
  simp [Session.epitaph, lifeless]

theorem overlooksPower : OverlooksPower (Session.epitaph : Session η → Epitaph) where
  host _ _ := rfl
  serial _ _ := rfl
  device session device same := by simp only [Session.epitaph, same.lifecycle]
  trace session event routine := by
    apply traced
    cases event with
    | selectConfiguration | notify => cases routine
    | _ => rfl
  loops _ _ := rfl
  starting session name ok := traced session rfl
  stopping session name tag wait ok := traced session rfl
  power _ _ := rfl
  notices session notification notice := by
    apply traced
    cases notification with
    | deviceStarted => cases notice
    | _ => rfl

/-- Removed for good, with no sign of life since. -/
structure Rests (before e : Epitaph) : Prop where
  removed : e.lifecycle.isRemoved = true
  final : before.lifecycle = .removed → e.lifecycle = .removed
  silent : e.revivals = before.revivals

variable {before e : Epitaph}

theorem Rests.next (rests : before.Rests e) {event : LifecycleEvent} {lifecycle : Lifecycle}
    (moved : e.lifecycle.next event = .ok lifecycle) : before.Rests { e with lifecycle } := by
  obtain ⟨removed, final, silent⟩ := rests
  obtain ⟨old, revivals⟩ := e
  cases old with
  | surpriseRemoved =>
      -- What began removed would be so still.
      have surprised : before.lifecycle ≠ .removed := fun gone => nomatch final gone
      cases event <;> cases moved <;> exact ⟨rfl, fun gone => absurd gone surprised, silent⟩
  | removed =>
      cases event <;> cases moved
      exact ⟨rfl, fun _ => rfl, silent⟩
  | _ => cases removed

/-! ## Parts of operations -/

theorem maintains_apply (event : LifecycleEvent) :
    (apply event : Act η Unit).Maintains Session.epitaph before.Rests := by
  intro e rests
  refine takes_device fun session known => ?_
  subst known
  cases outcome : session.device.lifecycle.next event with
  | error e => exact takes_throw rests
  | ok lifecycle =>
      rintro other same
      have moved := rests.next (e := session.epitaph) outcome
      rw [← same] at moved
      exact moved

theorem passes_emit {event : Event} (lifeless : event.isRevival = false) :
    (emit event : Act η Unit).Passes Session.epitaph :=
  fun session => ⟨(), _, exec_emit event session, traced session lifeless⟩

theorem passes_onDevice {f : Device → Device} (same : ∀ d, (f d).lifecycle = d.lifecycle) :
    (onDevice f : Act η Unit).Passes Session.epitaph :=
  fun session => ⟨(), _, exec_onDevice f session, by simp only [Session.epitaph, same]⟩

section Host

variable [Host η]

theorem passes_releaseInterfaces : (releaseInterfaces : Act η Unit).Passes Session.epitaph :=
  (passes_emit rfl).seq fun _ => overlooksPower.passes_onHost _

theorem passes_dropConfiguration :
    (Session.dropConfiguration : Act η Unit).Passes Session.epitaph := by
  refine passes_device.seq fun d => ?_
  split
  · exact passes_releaseInterfaces.seq fun _ => passes_onDevice fun _ => rfl
  · exact passes_pure ()

/-! ## Operations -/

theorem maintains_start : (Session.start : Act η Unit).Maintains Session.epitaph before.Rests := by
  intro e rests
  refine takes_device fun session known => ?_
  have removed : session.device.lifecycle.isRemoved = true := by
    rw [← known] at rests
    exact rests.removed
  cases lifecycle : session.device.lifecycle with
  | surpriseRemoved | removed => exact takes_throw rests
  | _ => simp [lifecycle, Lifecycle.isRemoved] at removed

theorem maintains_reinit :
    (Session.reinit : Act η Unit).Maintains Session.epitaph before.Rests := by
  -- The stop fails already, but each part keeps a removed device as it is by itself.
  refine passes_device.spares.before fun d => ?_
  dsimp only
  refine (overlooksPower.passes_stopAll _ _ _ _).spares.before fun _ => ?_
  refine maintains_either ?_ fun restarts => (maintains_apply .closed).seq fun _ => restarts
  refine passes_releaseInterfaces.spares.before fun _ => (maintains_apply .stop).seq fun _ =>
    (overlooksPower.passes_onPower _).spares.before fun _ =>
      (overlooksPower.spares_storeIncrement _ fun _ _ => rfl).attempt.spares.before fun _ =>
        maintains_start.seq fun _ => ?_
  split
  · exact overlooksPower.maintains_attach (maintains_apply .closed) (maintains_apply .opened)
  · exact (spares_pure ()).maintains

theorem maintains_surpriseRemove :
    (Session.surpriseRemove : Act η Unit).Maintains Session.epitaph before.Rests := by
  have cleared : (onDevice fun d => { d with configuration := none } :
      Act η Unit).Passes Session.epitaph :=
    passes_onDevice fun _ => rfl
  exact overlooksPower.maintains_surpriseRemove maintains_apply cleared.spares
    (passes_emit rfl).spares

theorem maintains_perform (operation : Operation) :
    (operation.perform : Act η Unit).Maintains Session.epitaph before.Rests := by
  have closed : (apply .closed : Act η Unit).Maintains Session.epitaph before.Rests :=
    maintains_apply .closed
  cases operation with
  | start => exact maintains_start
  | «open» =>
      exact overlooksPower.maintains_open maintains_reinit closed (maintains_apply .opened)
  | close => exact overlooksPower.maintains_close closed
  | stop => exact overlooksPower.maintains_stop maintains_apply passes_dropConfiguration.spares
  | surpriseRemove => exact maintains_surpriseRemove
  | shutdown =>
      exact overlooksPower.maintains_shutdown maintains_apply passes_dropConfiguration.spares
  | send channel payload =>
      exact overlooksPower.maintains_send maintains_reinit channel payload
  | pollIdle now =>
      exact (overlooksPower.spares_pollIdle now).before fun _ => (spares_pure ()).maintains
  | power request => exact overlooksPower.maintains_handlePower maintains_reinit request

end Host

end Epitaph

/-! ## Runs -/

theorem Footprint.traffic_misses_epitaph [Host η] :
    traffic.Misses (Session.epitaph : Session η → Epitaph) := by
  intro change s t allowed makes
  cases makes with
  | event _ event =>
      refine Epitaph.traced s ?_
      cases event with
      | selectConfiguration => cases allowed
      | notify notification =>
          cases notification with
          | deviceStarted => cases allowed
          | _ => rfl
      | _ => rfl
  | host | queues | details => rfl
  | _ => cases allowed

namespace Session

variable [Host η] {before : Epitaph}

theorem through_stays_removed (session : Session η) (happenings : List Happening)
    (rests : before.Rests session.epitaph) :
    before.Rests (session.through happenings).epitaph :=
  through_maintains Footprint.traffic_misses_epitaph session happenings
    (fun operation _ => Epitaph.maintains_perform operation) rests

/-! ## Refusals -/

section Refusals

variable {session : Session η}

theorem exec_start_of_isRemoved (removed : session.device.lifecycle.isRemoved = true) :
    (start : Act η Unit).exec session = (.error .deletePending, session) := by
  rw [start, exec_bind_ok (exec_device session)]
  cases lifecycle : session.device.lifecycle with
  | surpriseRemoved | removed => rfl
  | _ => cases lifecycle ▸ removed

theorem exec_open_of_isRemoved (removed : session.device.lifecycle.isRemoved = true) :
    (Session.open : Act η Unit).exec session = (.error .deletePending, session) := by
  rw [Session.open, exec_bind_ok (exec_device session)]
  cases lifecycle : session.device.lifecycle with
  | surpriseRemoved | removed => rfl
  | _ => cases lifecycle ▸ removed

theorem exec_send_of_not_inService (idle : session.device.lifecycle.inService = false)
    (channel : Channel) (payload : Bytes) :
    (send channel payload : Act η Unit).exec session =
      (.error (.invalidState session.device.lifecycle.name "send"), session) := by
  rw [send, exec_bind_ok (exec_device session)]
  simp only [idle]
  rfl

end Refusals

/-- Whatever is asked of a removed device, and whatever its loops still do, it stays removed, and
a shutdown is never taken back to a surprise removal. It is neither configured nor reported as
started again, cannot be started or opened, and takes no payload. -/
theorem removal_is_final (session : Session η) (happenings : List Happening)
    (removed : session.device.lifecycle.isRemoved = true) {later : Session η}
    (reached : session.through happenings = later) :
    later.device.lifecycle.isRemoved = true ∧
      (session.device.lifecycle = .removed → later.device.lifecycle = .removed) ∧
      later.trace.toList.filter Event.isRevival = session.trace.toList.filter Event.isRevival ∧
      (start : Act η Unit).exec later = (.error .deletePending, later) ∧
      (Session.open : Act η Unit).exec later = (.error .deletePending, later) ∧
      ∀ channel payload, (send channel payload : Act η Unit).exec later =
        (.error (.invalidState later.device.lifecycle.name "send"), later) := by
  subst reached
  have rests : session.epitaph.Rests (session.through happenings).epitaph :=
    through_stays_removed session happenings ⟨removed, id, rfl⟩
  have away : (session.through happenings).device.lifecycle.isRemoved = true := rests.removed
  exact ⟨away, rests.final, rests.silent, exec_start_of_isRemoved away, exec_open_of_isRemoved away,
    exec_send_of_not_inService (Lifecycle.inService_of_isRemoved away)⟩

/-- The device is taken out while it sleeps without power. Waking it would otherwise start it anew,
but only the shutdown has an effect. -/
theorem removal_is_final_asleep :
    let session := (create ⟨220, 24, 0⟩ ({} : ScriptedModem) {} {}).run
      [.start, .open, .power (.setSystem .sleeping3), .power (.setDevice .d3), .surpriseRemove]
    let later := session.through
      [.operation (.power (.setSystem .working)), .operation (.power (.setDevice .d0)),
        .loop .dispatch, .operation (.pollIdle 60000), .operation .shutdown,
        .operation .surpriseRemove, .operation .start]
    session.device.lifecycle = .surpriseRemoved ∧ later.device.lifecycle = .removed ∧
      (later.trace.toList.filter Event.isRevival).length = 2 ∧
      (Session.open : Act ScriptedModem Unit).exec later = (.error .deletePending, later) := by
  intro session later
  have surprised : session.device.lifecycle = .surpriseRemoved := by decide +kernel
  have gone : session.device.lifecycle.isRemoved = true := by
    rw [surprised]
    rfl
  obtain ⟨-, -, silent, -, refused, -⟩ := removal_is_final session _ gone (rfl : _ = later)
  refine ⟨surprised, by decide +kernel, ?_, refused⟩
  rw [silent]
  decide +kernel

end Session

end ModemLink
