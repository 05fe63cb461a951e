import ModemLink.Proofs.Session.Tenancy
import ModemLink.Scripted

/-!
# The permission to suspend

`open` withdraws the permission to suspend, `close` and an attachment that fails give it back. A
restart after a power loss detaches the client on its own and gives nothing back unless it attaches
the client again, so a device that is started later stays under a veto that nobody is there for.
-/

namespace ModemLink

namespace Tenancy

variable {t u : Tenancy} {operation : Operation}

/-- A restart has lost the client it was to attach again. -/
def evicts (t : Tenancy) (operation : Operation) (u : Tenancy) : Bool :=
  match operation with
  | .power _ | .send _ _ => t.lifecycle.inService && !u.lifecycle.inService
  | _ => false

/-- A present device may be suspended just when the options say so and no client is attached. -/
def Permits (t : Tenancy) : Prop :=
  t.lifecycle.isPresent = true →
    t.suspendAllowed = (t.options.selectiveSuspend && !t.lifecycle.inService)

namespace Permits

theorem attached (t : Tenancy) : t.attached.Permits := fun _ => (Bool.and_false _).symm

theorem detached (t : Tenancy) (idleDeadline : Option Nat) : (t.detached idleDeadline).Permits :=
  fun _ => (Bool.and_true _).symm

/-- Without a client, the permission survives every change among the present states. -/
theorem unattended (permits : t.Permits) (there : t.lifecycle.isPresent = true)
    (free : t.lifecycle.inService = false) {lifecycle : Lifecycle}
    (free' : lifecycle.inService = false) : ({ t with lifecycle } : Tenancy).Permits := by
  intro _
  have allowed := permits there
  rw [free] at allowed
  rw [free']
  exact allowed

theorem attaches (permits : t.Permits) (attaches : t.Attaches u) : u.Permits := by
  cases attaches with
  | refused => exact permits
  | abandoned free idleDeadline => exact detached t idleDeadline
  | attached free => exact attached t

theorem closes (permits : t.Permits) (closes : t.Closes u) : u.Permits := by
  cases closes with
  | unattended => exact permits
  | detached attached idleDeadline => exact detached t idleDeadline

/-- An attached client is there after the device was woken, or it was evicted. -/
theorem wakes (permits : t.Permits) (wakes : t.Wakes u)
    (kept : (t.lifecycle.inService && !u.lifecycle.inService) = false) : u.Permits := by
  cases wakes with
  | kept => exact permits
  | lost there =>
      have free : t.lifecycle.inService = false := by simpa [Lifecycle.inService] using kept
      exact permits.unattended there free rfl
  | restarted there free => exact permits.unattended there free rfl
  | reattached attached attaches =>
      cases attaches with
      | refused =>
          rw [attached] at kept
          cases kept
      | abandoned free idleDeadline => exact detached _ idleDeadline
      | attached free => exact Permits.attached _

theorem moves (permits : t.Permits) (moves : t.Moves operation u)
    (kept : t.evicts operation u = false) : u.Permits := by
  cases moves with
  | stays => exact permits
  | starts present =>
      exact permits.unattended (by rw [present]; rfl) (by rw [present]; rfl) rfl
  | opens free wakes attaches =>
      have unattended : t.lifecycle.inService = false := by
        rw [free]
        rfl
      have awake := permits.wakes wakes (by rw [unattended]; rfl)
      exact awake.attaches attaches
  | closes closes => exact permits.closes closes
  | stopRefused unstarted => exact permits
  | stops closes there =>
      have free := closes.free
      exact (permits.closes closes).unattended there free rfl
  | surpriseRemoves =>
      intro there
      cases t.lifecycle.advance_surpriseRemove_away.symm.trans there
  | shutsDown closes => exact nofun
  | sends channel payload attached wakes => exact permits.wakes wakes kept
  | polls now => exact permits
  | powers request wakes => exact permits.wakes wakes kept

end Permits

end Tenancy

namespace Session

variable {η : Type} [Host η]

/-- The permission to suspend never goes beyond the options, and a client withdraws it. A started
device has all of it, and only I/O in flight can veto a suspend without a client, if no restart of
the run has lost a client. -/
theorem suspend_permission_follows_client (key : AdapterKey) (host : η) (store : Store)
    (options : SessionOptions) (happenings : List Happening) {session : Session η}
    (reached : (create key host store options).through happenings = session) :
    (session.device.power.suspendAllowed = true →
        options.selectiveSuspend = true ∧ session.device.lifecycle.inService = false) ∧
      ((create key host store options).shuns Tenancy.evicts happenings = true →
        session.device.lifecycle.isStarted = true →
          session.device.power.suspendAllowed =
              (options.selectiveSuspend && !session.device.lifecycle.inService) ∧
            (options.selectiveSuspend = true → session.device.lifecycle.inService = false →
              session.device.vetoReason? =
                if session.device.ioBusy != 0 then some "I/O in flight" else none)) := by
  have granted : session.tenancy.Granted options :=
    reached ▸ through_granted key host store options happenings
  have given : session.options = options := granted.options
  refine ⟨fun allowed => ⟨given ▸ granted.restrained.selective allowed, ?_⟩,
    fun shuns started => ?_⟩
  · refine Bool.eq_false_iff.mpr fun attached => ?_
    cases allowed.symm.trans (granted.restrained.suspendAllowed attached)
  have permits : session.tenancy.Permits := by
    rw [← reached]
    have first : (create key host store options).tenancy.Permits := fun _ => (Bool.and_true _).symm
    exact through_tenancy Tenancy.Permits.moves _ happenings first shuns
  have allowed : session.device.power.suspendAllowed =
      (options.selectiveSuspend && !session.device.lifecycle.inService) :=
    given ▸ permits (Lifecycle.isPresent_of_isStarted started)
  refine ⟨allowed, fun selective free => ?_⟩
  rw [selective, free] at allowed
  simp [Device.vetoReason?, free, allowed]

/-- A client has come and gone before the restart that fails. -/
theorem suspend_permission_follows_client_restart_failed :
    let modem : ScriptedModem :=
      { injected := .replicate 6 (.getDescriptor, .pass) ++ [(.getDescriptor, .fail .io)] }
    let session := (create ⟨220, 11, 0⟩ modem {} {}).run
      [.start, .open, .close, .power (.setSystem .sleeping3), .power (.setDevice .d3),
        .power (.setSystem .working), .power (.setDevice .d0), .start]
    session.device.power.suspendAllowed = true ∧ session.device.vetoReason? = none := by
  intro modem session
  have reached : _ = session := through_operations _ _
  obtain ⟨-, restored⟩ := suspend_permission_follows_client _ modem _ _ _ reached
  obtain ⟨allowed, veto⟩ := restored (by decide +kernel) (by decide +kernel)
  have free : session.device.lifecycle.inService = false := by decide +kernel
  rw [free] at allowed
  have quiet : (session.device.ioBusy != 0) = false := by decide +kernel
  have vetoed := veto rfl free
  rw [quiet] at vetoed
  exact ⟨allowed, vetoed⟩

/-- The same restart with a client attached: once started again, the device has no client and no
transfer under way, and may not be suspended all the same. -/
theorem suspend_permission_lost_with_client :
    let modem : ScriptedModem :=
      { injected := .replicate 6 (.getDescriptor, .pass) ++ [(.getDescriptor, .fail .io)] }
    let session := (create ⟨220, 11, 0⟩ modem {} {}).run
      [.start, .open, .power (.setSystem .sleeping3), .power (.setDevice .d3),
        .power (.setSystem .working), .power (.setDevice .d0), .start]
    session.device.lifecycle = .started false ∧ session.options.selectiveSuspend = true ∧
      session.device.power.suspendAllowed = false ∧
      session.device.vetoReason? = some "selective suspend disabled" := by
  decide +kernel

end Session

end ModemLink
