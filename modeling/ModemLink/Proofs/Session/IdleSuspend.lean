import ModemLink.Proofs.Session.Veto

/-!
# Failed idle suspends

A poll that finds the idle timer fired marks the device as idle, records a request of its own and
carries it out. A request that is vetoed, since transfers have begun by then, leaves nothing behind.
One that finds no slot in the pool leaves the mark.
-/

namespace ModemLink

open Act

variable {η : Type} [Host η]

theorem RequestPool.Awaits.pos {capacity : Nat} {target : DevicePower} {pool : RequestPool}
    (awaits : pool.Awaits capacity target) : 0 < capacity := by
  obtain ⟨slots, index, free, fresh, size⟩ := awaits
  refine Nat.pos_of_ne_zero ?_
  rintro rfl
  cases fresh

namespace Session

/-- A poll with the loops at work: transfers begin or end once it has looked at the timer. -/
def pollIdleAmid (now : Nat) (busy : UInt32) : Act η Bool := do
  if !(← Act.device).idleExpired now then return false
  Act.onDevice fun d => { d with ioBusy := busy }
  suspendIdle
  return true

/-- The timer has run out, and the device is marked as idle or not. -/
def idled (session : Session η) (idle : Bool) : Session η :=
  { session with device.power := { session.device.power with
      idleDeadline := none, idleSuspended := idle } }

def withPool (session : Session η) (pool : RequestPool) : Session η :=
  { session with device.pool := pool }

/-- Nothing is left of a suspend that failed but perhaps the mark. -/
structure Unsuspended (session after : Session η) (mark : Bool) : Prop where
  power : after.device.power =
    { session.device.power with idleDeadline := none, idleSuspended := mark }
  free : after.device.pool.free = session.device.pool.free
  pending : after.device.pool.pending = session.device.pool.pending
  capacity : after.device.pool.capacity = session.device.pool.capacity
  trace : after.trace = session.trace

variable {session after : Session η} {now capacity : Nat} {busy : UInt32} {e : DriverError}

/-- Undisturbed, it is a poll. -/
theorem exec_pollIdleAmid_still (session : Session η) (now : Nat) :
    (pollIdleAmid now session.device.ioBusy).exec session = (pollIdle now).exec session := by
  cases expired : session.device.idleExpired now with
  | false =>
      rw [exec_pollIdle_unexpired expired]
      unfold pollIdleAmid
      rw [exec_bind_ok (exec_device session), expired]
      rfl
  | true =>
      rw [exec_pollIdle_expired expired]
      unfold pollIdleAmid
      rw [exec_bind_ok (exec_device session), expired]
      rfl

theorem exec_pollIdleAmid_failed
    (failed : (pollIdleAmid now busy : Act η Bool).exec session = (.error e, after)) :
    (suspendIdle : Act η Unit).exec { session with device.ioBusy := busy } = (.error e, after) := by
  unfold pollIdleAmid at failed
  rw [exec_bind_ok (exec_device session)] at failed
  cases expired : session.device.idleExpired now with
  | false =>
      rw [expired] at failed
      cases failed
  | true =>
      rw [expired] at failed
      have failed : (suspendIdle >>= fun _ => pure true : Act η Bool).exec
        { session with device.ioBusy := busy } = (.error e, after) := failed
      obtain suspended | ⟨_, _, -, done⟩ := exec_bind_failed failed
      · exact suspended
      · cases done

theorem exec_suspendIdle (session : Session η) :
    (suspendIdle : Act η Unit).exec session =
      match session.device.pool.push .d2 with
      | .ok (handle, pool) => (ownSuspend handle).exec ((session.idled true).withPool pool)
      | .error e => (.error e, session.idled true) := by
  have pool : (session.idled true).device.pool = session.device.pool := rfl
  change (requestSelfPower .d2 >>= ownSuspend).exec (session.idled true) = _
  rw [exec_bind, exec_requestSelfPower, pool]
  cases session.device.pool.push .d2 <;> rfl

/-- Without a free slot every poll that finds the timer fired fails, and leaves the mark. -/
theorem exec_pollIdle_exhausted (full : session.device.pool.free = [])
    (expired : session.device.idleExpired now = true) :
    (pollIdle now : Act η Bool).exec session = (.error .powerPoolExhausted, session.idled true) := by
  have refused : session.device.pool.push .d2 = .error .powerPoolExhausted := by
    rw [RequestPool.push, full]
  rw [exec_pollIdle_expired expired, exec_bind, exec_suspendIdle, refused]

/-- A request that is vetoed has been matched with its record by then, and takes the mark back. -/
theorem exec_ownSuspend_vetoed (handle : PowerRequestHandle) {pool rested : RequestPool}
    {disposition : PowerDisposition}
    (found : pool.filter (.setDevice .d2) = (disposition, rested)) (rests : rested.Rests capacity)
    (vetoed : session.device.checkVeto .d2 = .error e) :
    (ownSuspend handle : Act η Unit).exec ((session.idled true).withPool pool) =
      (.error e, (session.idled false).withPool rested) := by
  have vetoed : ((session.idled true).withPool pool).device.checkVeto .d2 = .error e := vetoed
  unfold ownSuspend
  rw [exec_tryCatch, exec_setDevice_vetoed vetoed]
  change (Except.error e, (session.idled false).withPool
    ((pool.filter (.setDevice .d2)).2.cancel handle).2) = _
  rw [found, rests.cancel]

theorem exec_ownSuspend_accepted (handle : PowerRequestHandle) (pool : RequestPool)
    (accepted : session.device.checkVeto .d2 = .ok ()) :
    ((ownSuspend handle : Act η Unit).exec ((session.idled true).withPool pool)).1 = .ok () := by
  have accepted : ((session.idled true).withPool pool).device.checkVeto .d2 = .ok () := accepted
  unfold ownSuspend
  rw [exec_tryCatch, exec_of_result (exec_setDevice_low rfl accepted)]

theorem suspendIdle_failed (rests : session.device.pool.Rests capacity)
    (failed : (suspendIdle : Act η Unit).exec session = (.error e, after)) :
    ∃ pool : RequestPool, pool.Rests capacity ∧
      after = (session.idled (capacity == 0)).withPool pool := by
  rw [exec_suspendIdle] at failed
  obtain ⟨handle, pool, pushed, awaits⟩ | ⟨refused, rfl⟩ := rests.push .d2
  · rw [pushed] at failed
    obtain ⟨rested, found, rests'⟩ := awaits.filter
    cases verdict : session.device.checkVeto .d2 with
    | ok _ =>
        have succeeds := exec_ownSuspend_accepted handle pool verdict
        cases succeeds.symm.trans (congrArg Prod.fst failed)
    | error reason =>
        dsimp only at failed
        rw [exec_ownSuspend_vetoed handle found rests' verdict] at failed
        cases failed
        refine ⟨rested, rests', ?_⟩
        rw [beq_false_of_ne (Nat.ne_of_gt awaits.pos)]
  · rw [refused] at failed
    cases failed
    exact ⟨session.device.pool, rests, rfl⟩

theorem suspendIdle_succeeds (rests : session.device.pool.Rests capacity) (pooled : 0 < capacity)
    (accepted : session.device.checkVeto .d2 = .ok ()) :
    ((suspendIdle : Act η Unit).exec session).1 = .ok () := by
  rw [exec_suspendIdle]
  obtain ⟨handle, pool, pushed, -⟩ | ⟨-, rfl⟩ := rests.push .d2
  · rw [pushed]
    exact exec_ownSuspend_accepted handle pool accepted
  · exact absurd pooled (Nat.lt_irrefl 0)

/-- A device whose timer has fired refuses nothing, as long as no transfer begins. -/
theorem checkVeto_of_idleExpired {d : Device} (expired : d.idleExpired now = true)
    (level : DevicePower) : d.checkVeto level = .ok () := by
  refine Device.checkVeto_accepts ?_
  simp only [Device.idleExpired, Bool.and_eq_true, Bool.not_eq_eq_eq_not, Bool.not_true,
    beq_iff_eq] at expired
  obtain ⟨⟨⟨⟨⟨-, allowed⟩, -⟩, -⟩, free⟩, still⟩ := expired
  rintro ⟨-, attached | busy | forbidden⟩
  · cases free.symm.trans attached
  · exact busy still
  · cases allowed.symm.trans forbidden

/-- With a slot in the pool no poll fails by itself, whatever the host answers. One that fails, since
transfers begin while it goes on, leaves the record and the pool as they were, and calls nobody: the
device is not taken for one that was suspended while idle. Without a slot it is. -/
theorem failed_idle_suspend_is_undone (key : AdapterKey) (host : η) (store : Store)
    (options : SessionOptions) (happenings : List Happening) {session : Session η}
    (reached : (create key host store options).through happenings = session) (now : Nat) :
    (0 < options.requestPool →
      ∃ suspended, ((pollIdle now : Act η Bool).exec session).1 = .ok suspended) ∧
    (∀ e after, (pollIdle now).exec session = (.error e, after) →
      session.Unsuspended after (options.requestPool == 0)) ∧
    ∀ busy e after, (pollIdleAmid now busy).exec session = (.error e, after) →
      session.Unsuspended after (options.requestPool == 0) := by
  have rests : session.device.pool.Rests options.requestPool :=
    reached ▸ through_rests key host store options happenings
  have undone (busy : UInt32) (e : DriverError) (after : Session η)
      (failed : (pollIdleAmid now busy).exec session = (.error e, after)) :
      session.Unsuspended after (options.requestPool == 0) := by
    have failed := exec_pollIdleAmid_failed failed
    have restsAmid : ({ session with device.ioBusy := busy } : Session η).device.pool.Rests
        options.requestPool := rests
    obtain ⟨pool, rests', rfl⟩ := suspendIdle_failed restsAmid failed
    exact ⟨rfl, rests'.free.trans rests.free.symm, rests'.pending.trans rests.pending.symm,
      rests'.size.trans rests.size.symm, rfl⟩
  refine ⟨fun pooled => ?_, fun e after failed => ?_, undone⟩
  · cases expired : session.device.idleExpired now with
    | false => exact ⟨false, congrArg Prod.fst (exec_pollIdle_unexpired expired)⟩
    | true =>
        have succeeds := suspendIdle_succeeds rests pooled (checkVeto_of_idleExpired expired .d2)
        refine ⟨true, ?_⟩
        rw [exec_pollIdle_expired expired, exec_bind_ok (exec_of_result succeeds)]
        rfl
  · rw [← exec_pollIdleAmid_still] at failed
    exact undone _ e after failed

/-- A transfer begins between the look at the timer and the request. -/
theorem failed_idle_suspend_is_undone_while_busy :
    let session := (create ⟨220, 32, 0⟩ ({} : ScriptedModem) {} { idleTimeout := some 0 }).through
      [.operation .start, .operation .open, .operation .close]
    (∃ suspended, ((pollIdle 1000).exec session).1 = .ok suspended) ∧
      ∃ e after, (pollIdleAmid 1000 ioWrite).exec session = (.error e, after) ∧
        session.Unsuspended after false := by
  intro session
  obtain ⟨polls, -, undone⟩ := failed_idle_suspend_is_undone _ _ _ _ _ (rfl : _ = session) 1000
  have fails : ((pollIdleAmid 1000 ioWrite).exec session).1.isOk = false := by decide +kernel
  cases result : ((pollIdleAmid 1000 ioWrite).exec session).1 with
  | ok suspended => cases fails.symm.trans (congrArg Except.isOk result)
  | error e => exact ⟨polls (by decide), e, _, exec_of_result result,
      undone ioWrite e _ (exec_of_result result)⟩

/-- Without a slot in the pool a poll fails, and leaves the device marked: it takes the host's next
suspend for one of its own, and does not restart the device after it. -/
theorem empty_pool_leaves_mark :
    let session := (create ⟨220, 32, 0⟩ ({} : ScriptedModem) {}
        { idleTimeout := some 0, requestPool := 0 }).through
      [.operation .start, .operation .open, .operation .close]
    let polled := ((pollIdle 1000).exec session).2
    let wakesFrom (s : Session ScriptedModem) :=
      ((s.after (.power (.setDevice .d3))).device.power.setDevice .d0).1
    (pollIdle 1000).exec session = (.error .powerPoolExhausted, polled) ∧
      session.device.power.idleSuspended = false ∧ polled.device.power.idleSuspended = true ∧
      wakesFrom session = some .wakeupReset ∧ wakesFrom polled = some .wakeup := by
  intro session polled wakesFrom
  have failed : (pollIdle 1000).exec session = (.error .powerPoolExhausted, session.idled true) :=
    exec_pollIdle_exhausted (by decide +kernel) (by decide +kernel)
  exact ⟨exec_of_result (congrArg Prod.fst failed), by decide +kernel, by decide +kernel,
    by decide +kernel, by decide +kernel⟩

end Session

end ModemLink
