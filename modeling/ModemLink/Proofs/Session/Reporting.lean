import ModemLink.Proofs.Session.Conduct
import ModemLink.Scripted

/-!
# Reports of power levels

A request that the driver makes of itself is recorded in the pool, finds its record when it is
carried out and is not reported; one of the host finds none, since between operations nothing is
pending.
-/

namespace ModemLink

open Act Footprint

variable {η α : Type}

/-! ## The pool -/

namespace RequestPool

/-- Nothing is pending, and every slot is free in its first order. -/
structure Rests (capacity : Nat) (pool : RequestPool) : Prop where
  pending : pool.pending = []
  free : pool.free = List.range capacity
  size : pool.slots.size = capacity

/-- One request is pending. -/
inductive Awaits (capacity : Nat) (target : DevicePower) : RequestPool → Prop
  | recorded (slots : Array PowerSlot) (index : Nat) (free : List Nat)
      (fresh : List.range capacity = index :: free) (size : slots.size = capacity) :
      Awaits capacity target
        { slots := slots.setIfInBounds index { target, live := true }, free, pending := [index] }

variable {capacity : Nat} {target level : DevicePower} {pool : RequestPool}

theorem rests_ofCapacity (capacity : Nat) : (ofCapacity capacity).Rests capacity :=
  ⟨rfl, rfl, Array.size_replicate⟩

theorem Rests.push (rests : pool.Rests capacity) (target : DevicePower) :
    (∃ handle awaiting, pool.push target = .ok (handle, awaiting) ∧
        awaiting.Awaits capacity target) ∨
      pool.push target = .error .powerPoolExhausted ∧ capacity = 0 := by
  obtain ⟨slots, free, pending⟩ := pool
  obtain ⟨rfl, rfl, size⟩ := rests
  cases fresh : List.range capacity with
  | nil => exact .inr ⟨by simp [RequestPool.push], List.range_eq_nil.mp fresh⟩
  | cons index free =>
      exact .inl ⟨⟨index⟩, _, by simp [RequestPool.push], .recorded slots index free fresh size⟩

theorem Rests.filter (rests : pool.Rests capacity) :
    pool.filter (.setDevice level) = (.forward, pool) := by
  simp [RequestPool.filter, matchAndRelease, rests.pending]

theorem Rests.cancel (rests : pool.Rests capacity) (handle : PowerRequestHandle) :
    pool.cancel handle = (false, pool) := by
  simp [RequestPool.cancel, rests.pending]

theorem Awaits.filter (awaits : pool.Awaits capacity target) :
    ∃ rested, pool.filter (.setDevice target) = (.selfOriginated, rested) ∧
      rested.Rests capacity := by
  obtain ⟨slots, index, free, fresh, size⟩ := awaits
  have inside : index < slots.size := by
    rw [size, ← List.mem_range, fresh]
    exact List.mem_cons_self
  refine ⟨_, by simp [RequestPool.filter, matchAndRelease, holds, slot, inside]; rfl, ?_⟩
  exact ⟨by simp [release], fresh.symm, by simpa [release] using size⟩

end RequestPool

/-! ## The desk -/

/-- The level that the layer above is told of. -/
def Event.reported? : Event → Option DevicePower
  | .notify (.powerStateChanged level) => some level
  | _ => none

/-- Every level reported so far, in order. -/
def Session.reported (session : Session η) : List DevicePower :=
  session.trace.toList.filterMap Event.reported?

/-- What requests go through: the pool, and the reports. -/
structure Desk where
  pool : RequestPool
  reported : List DevicePower

def Session.desk (session : Session η) : Desk := ⟨session.device.pool, session.reported⟩

theorem Session.desk_push (session : Session η) (event : Event) :
    ({ session with trace := session.trace.push event } : Session η).desk =
      ⟨session.device.pool, session.reported ++ event.reported?.toList⟩ := by
  cases told : event.reported? <;> simp [desk, reported, told]

theorem Footprint.unreported_misses_desk [Host η] :
    (unreported η).Misses (Session.desk : Session η → Desk) := by
  intro change s t allowed makes
  cases makes with
  | event _ event =>
      have untold : event.reported? = none := by
        cases event with
        | notify notification =>
            cases notification with
            | powerStateChanged => cases allowed
            | _ => rfl
        | _ => rfl
      rw [Session.desk_push, untold, Option.toList_none, List.append_nil]
      rfl
  | pool => cases allowed
  | _ => rfl

/-- The level that the host asked for in this operation, if it was carried out. -/
def Operation.granted : Operation → Except DriverError Unit → List DevicePower
  | .power (.setDevice level), result => if result.isOk then [level] else []
  | _, _ => []

/-- The desk after a request that was answered with `disposition`. -/
def Desk.filed (v : Desk) (disposition : PowerDisposition) (level : DevicePower) : Desk :=
  if disposition = .forward then { v with reported := v.reported ++ [level] } else v

theorem Session.exec_filterRequest (session : Session η) (request : PowerRequest) :
    (filterRequest request : Act η _).exec session =
      (.ok (session.device.pool.filter request).1,
        { session with device.pool := (session.device.pool.filter request).2 }) := rfl

theorem Session.takes_filterRequest {v : Desk} {request : PowerRequest} {pool : RequestPool}
    {disposition : PowerDisposition} {next : PowerDisposition → Act η α}
    {post : Except DriverError α → Desk → Prop}
    (filtered : v.pool.filter request = (disposition, pool))
    (rest : (next disposition).Takes Session.desk { v with pool } post) :
    (filterRequest request >>= next).Takes Session.desk v post := by
  rintro session rfl
  have answered : session.device.pool.filter request = (disposition, pool) := filtered
  rw [exec_bind_ok (exec_filterRequest session request), answered]
  exact rest _ rfl

theorem Session.exec_requestSelfPower (session : Session η) (level : DevicePower) :
    (requestSelfPower level : Act η _).exec session = match session.device.pool.push level with
      | .ok (handle, pool) => (.ok handle, { session with device.pool := pool })
      | .error e => (.error e, session) := by
  unfold requestSelfPower
  rw [exec_bind_ok (exec_device session)]
  cases session.device.pool.push level <;> rfl

theorem Session.brings_cancelRequest {v : Desk} {capacity : Nat} (rests : v.pool.Rests capacity)
    (handle : PowerRequestHandle) :
    (discard (Session.cancelRequest handle) : Act η Unit).Brings Session.desk v v := by
  rintro session rfl
  refine ⟨(), { session with device.pool := (session.device.pool.cancel handle).2 }, rfl, ?_⟩
  rw [show session.device.pool.cancel handle = _ from rests.cancel handle]
  rfl

theorem Session.brings_report {v : Desk} (disposition : PowerDisposition) (level : DevicePower) :
    (report disposition level : Act η Unit).Brings Session.desk v (v.filed disposition level) := by
  unfold report Desk.filed
  split
  · rintro session rfl
    exact ⟨(), _, exec_notify _ _, desk_push session _⟩
  · exact (passes_pure ()).brings

section Host

variable [Host η] {v : Desk} {level : DevicePower}

/-- An action that neither touches the pool nor reports. -/
theorem Act.Within.takes_desk {act : Act η α} {post : Except DriverError α → Desk → Prop}
    (within : act.Within (Footprint.unreported η)) (passed : ∀ a, post (.ok a) v)
    (failed : ∀ e, (Footprint.unreported η).fails e → post (.error e) v) :
    act.Takes Session.desk v post := by
  intro session known
  rw [within.spares unreported_misses_desk session, known]
  cases outcome : (act.exec session).1 with
  | ok a => exact passed a
  | error e => exact failed e ((within session).2 e outcome)

theorem Act.Within.bind_desk {β : Type} {act : Act η α} {next : α → Act η β}
    {post : Except DriverError β → Desk → Prop} (within : act.Within (Footprint.unreported η))
    (rest : ∀ a, (next a).Takes Session.desk v post)
    (failed : ∀ e, (Footprint.unreported η).fails e → post (.error e) v) :
    (act >>= next).Takes Session.desk v post :=
  Takes.bind (within.takes_desk rest failed)

namespace Session

/-- A request is reported once it has been carried out, if it is the host's. -/
theorem files_setDevicePower {disposition : PowerDisposition} {pool : RequestPool}
    (filtered : v.pool.filter (.setDevice level) = (disposition, pool)) :
    (setDevicePower level : Act η Unit).Takes Session.desk v fun result w => match result with
      | .ok _ => w = ({ v with pool } : Desk).filed disposition level
      | .error e => w = { v with pool } ∧ (unreported η).fails e := by
  refine takes_filterRequest filtered ?_
  refine (within_recordDevicePower level).bind_desk (fun signal => ?_) fun e fails => ⟨rfl, fails⟩
  have report : (report disposition level : Act η Unit).Takes Session.desk { v with pool }
      fun result w => match result with
        | .ok _ => w = ({ v with pool } : Desk).filed disposition level
        | .error e => w = { v with pool } ∧ (unreported η).fails e :=
    (brings_report disposition level).takes fun _ => rfl
  have enacted {act : Act η Unit} (within : act.Within (unreported η)) :=
    within.bind_desk (fun _ => report) fun e fails => ⟨rfl, fails⟩
  cases signal with
  | none =>
      refine within_device.bind_desk (fun d => ?_) fun e fails => ⟨rfl, fails⟩
      dsimp only
      split
      · exact enacted (within_setWaitWake false)
      · exact report
  | some signal => cases signal with
    | standby =>
        refine within_device.bind_desk (fun d => ?_) fun e fails => ⟨rfl, fails⟩
        exact enacted (within_stopDataPath _ _)
    | wakeup => exact enacted within_resumeDataPath
    | wakeupReset => exact enacted within_reinit

/-- The pool is at rest, reports are as given, and only an empty pool is ever exhausted. -/
structure Settled (η : Type) [Host η] (capacity : Nat) (reported : List DevicePower)
    (result : Except DriverError α) (w : Desk) : Prop where
  rests : w.pool.Rests capacity
  reported : w.reported = reported
  exhausted : result = .error .powerPoolExhausted → capacity = 0 ∨ Host.Exhausts η

namespace Settled

variable {capacity : Nat} {β : Type}

theorem ok {a : α} (rests : v.pool.Rests capacity) :
    Settled η capacity v.reported (.ok a : Except DriverError α) v :=
  ⟨rests, rfl, nofun⟩

theorem failed {e : DriverError} (rests : v.pool.Rests capacity) (fails : (unreported η).fails e) :
    Settled η capacity v.reported (.error e : Except DriverError α) v :=
  ⟨rests, rfl, fun same => .inr (fails (Except.error.inj same))⟩

/-- Another result that fails as this one does. -/
theorem recast {reported : List DevicePower} {result : Except DriverError α}
    {other : Except DriverError β} (settled : Settled η capacity reported result v)
    (same : ∀ e, other = .error e → result = .error e) : Settled η capacity reported other v :=
  ⟨settled.rests, settled.reported, fun exhausted => settled.exhausted (same _ exhausted)⟩

end Settled

variable {capacity : Nat}

theorem settles {act : Act η α} (rests : v.pool.Rests capacity)
    (within : act.Within (unreported η)) :
    act.Takes desk v (Settled η capacity v.reported) :=
  within.takes_desk (fun _ => .ok rests) fun _ => .failed rests

/-- The host is told of its own request if that was carried out. -/
theorem settles_setDevicePower (rests : v.pool.Rests capacity) :
    (setDevicePower level : Act η Unit).Takes desk v fun result => Settled η capacity
      (v.reported ++ if result.isOk then [level] else []) result := by
  refine (files_setDevicePower rests.filter).imp fun result w reached => ?_
  cases result with
  | ok _ =>
      cases reached
      exact ⟨rests, rfl, nofun⟩
  | error e =>
      obtain ⟨rfl, fails⟩ := reached
      simpa [Except.isOk, Except.toBool] using Settled.failed rests fails

/-- Nothing is reported of a request that the driver made of itself. -/
theorem settles_ownPower {pool : RequestPool} (awaits : pool.Awaits capacity level) :
    (setDevicePower level : Act η Unit).Takes desk { v with pool }
      (Settled η capacity v.reported) := by
  obtain ⟨rested, filtered, rests⟩ := awaits.filter
  refine (files_setDevicePower filtered).imp fun result w reached => ?_
  cases result with
  | ok _ =>
      cases reached
      exact ⟨rests, rfl, nofun⟩
  | error e =>
      obtain ⟨rfl, fails⟩ := reached
      exact ⟨rests, rfl, fun same => .inr (fails (Except.error.inj same))⟩

theorem settles_request {next : PowerRequestHandle → Act η α} (rests : v.pool.Rests capacity)
    (rest : ∀ handle pool, pool.Awaits capacity level →
      (next handle).Takes desk { v with pool } (Settled η capacity v.reported)) :
    (requestSelfPower level >>= next).Takes desk v (Settled η capacity v.reported) := by
  rintro session rfl
  rw [exec_bind, exec_requestSelfPower]
  obtain ⟨handle, awaiting, pushed, awaits⟩ | ⟨pushed, empty⟩ := rests.push level
  · rw [show session.device.pool.push level = _ from pushed]
    exact rest handle awaiting awaits _ rfl
  · rw [show session.device.pool.push level = _ from pushed]
    exact ⟨rests, rfl, fun _ => .inl empty⟩

theorem settles_ensureAwake (rests : v.pool.Rests capacity) :
    (ensureAwake : Act η Unit).Takes desk v (Settled η capacity v.reported) := by
  refine within_device.bind_desk (fun d => ?_) fun _ => .failed rests
  split
  · exact takes_pure (.ok rests)
  · refine settles_request rests fun handle pool awaits => ?_
    refine (settles_ownPower awaits).tryCatch (fun _ _ => id) fun e w settled => ?_
    obtain ⟨rested, same, exhausted⟩ := settled
    exact (brings_cancelRequest rested handle).bind fun _ => takes_throw ⟨rested, same, exhausted⟩

theorem settles_open (rests : v.pool.Rests capacity) :
    («open» : Act η Unit).Takes desk v (Settled η capacity v.reported) := by
  refine within_device.bind_desk (fun d => ?_) fun _ => .failed rests
  split
  · exact takes_throw (.failed rests nofun)
  · refine (settles_ensureAwake rests).andThen (fun _ w settled => ?_) fun e w settled => settled
    rw [← settled.reported]
    exact settles settled.rests within_attach
  · exact takes_throw (.failed rests nofun)

theorem settles_send {channel : Channel} {payload : Bytes} (rests : v.pool.Rests capacity) :
    (send channel payload : Act η Unit).Takes desk v (Settled η capacity v.reported) := by
  refine within_device.bind_desk (fun d => ?_) fun _ => .failed rests
  dsimp only
  split
  · exact Takes.bind (takes_throw (.failed rests (by nofun)))
  refine (settles_ensureAwake rests).andThen (fun _ w settled => ?_) fun e w settled => settled
  rw [← settled.reported]
  exact settles settled.rests (within_enqueue channel payload)

theorem settles_suspendIdle (rests : v.pool.Rests capacity) :
    (suspendIdle : Act η Unit).Takes desk v (Settled η capacity v.reported) := by
  have idling (idle : Bool) : (onPower fun p => { p with idleSuspended := idle } :
      Act η Unit).Passes desk := fun session => ⟨(), _, rfl, rfl⟩
  refine Act.Within.bind_desk within_cancelIdleTimer (fun _ => (idling true).bind fun _ => ?_)
    fun _ => .failed rests
  refine settles_request rests fun handle pool awaits => ?_
  refine (settles_ownPower awaits).tryCatch (fun _ _ => id) fun e w settled => ?_
  refine (brings_cancelRequest settled.rests handle).bind fun _ => (idling false).bind fun _ => ?_
  exact takes_throw settled

theorem settles_pollIdle {now : Nat} (rests : v.pool.Rests capacity) :
    (pollIdle now : Act η Bool).Takes desk v (Settled η capacity v.reported) := by
  refine within_device.bind_desk (fun d => ?_) fun _ => .failed rests
  split
  · exact takes_pure (.ok rests)
  refine (settles_suspendIdle rests).andThen
    (fun _ w settled => takes_pure (settled.recast nofun)) fun e w settled => ?_
  exact settled.recast fun _ failed => by cases failed; rfl

theorem settles_perform (operation : Operation) (rests : v.pool.Rests capacity) :
    (operation.perform : Act η Unit).Takes desk v fun result => Settled η capacity
      (v.reported ++ operation.granted result) result := by
  have silent {act : Act η Unit} (settles : act.Takes desk v (Settled η capacity v.reported)) :
      act.Takes desk v fun result => Settled η capacity (v.reported ++ []) result := by
    simpa using settles
  cases operation with
  | start => exact silent (settles rests (within_start trivial))
  | «open» => exact silent (settles_open rests)
  | close => exact silent (settles rests within_close)
  | stop => exact silent (settles rests within_stop)
  | surpriseRemove => exact silent (settles rests (within_surpriseRemove trivial))
  | shutdown => exact silent (settles rests within_shutdown)
  | send channel payload => exact silent (settles_send rests)
  | pollIdle now =>
      refine silent ((settles_pollIdle rests).discard (fun _ _ settled => ?_) fun _ _ settled => ?_)
      · exact settled.recast nofun
      · exact settled.recast fun _ failed => by cases failed; rfl
  | power request =>
      cases request with
      | queryDevice level =>
          refine silent (settles rests (within_device.seq fun d => within_orThrow ?_))
          rintro e vetoed rfl
          cases Device.isReserved_of_checkVeto vetoed
      | querySystem level => exact silent (settles rests (within_pure _))
      | setSystem level => exact silent (settles rests (within_setSystemPower level trivial trivial))
      | setDevice level => exact settles_setDevicePower rests

/-! ## Runs -/

/-- The levels that the host asked for along a run, as far as they were carried out. -/
def granted : Session η → List Happening → List DevicePower
  | _, [] => []
  | session, .operation operation :: happenings =>
      operation.granted (operation.perform.exec session).1 ++
        (session.after operation).granted happenings
  | session, happening :: happenings => (session.next happening).granted happenings

theorem through_settles (session : Session η) (happenings : List Happening)
    (rests : session.device.pool.Rests capacity) :
    (session.through happenings).device.pool.Rests capacity ∧
      (session.through happenings).reported = session.reported ++ session.granted happenings := by
  induction happenings generalizing session with
  | nil => exact ⟨rests, by simp [through, granted]⟩
  | cons happening happenings ih =>
      have quiet (reaches : traffic.Reaches session (session.next happening)) :
          (session.next happening).desk = session.desk :=
        unreported_misses_desk.reaches
          (reaches.mono fun _ allowed => unreported_of_ordinary (ordinary_of_traffic allowed))
      have still (same : (session.next happening).desk = session.desk) :
          ((session.next happening).through happenings).device.pool.Rests capacity ∧
            ((session.next happening).through happenings).reported =
              session.reported ++ (session.next happening).granted happenings := by
        injection same with samePool sameReported
        rw [← sameReported]
        exact ih _ (samePool ▸ rests)
      cases happening with
      | operation operation =>
          have settled := settles_perform operation rests session rfl
          obtain ⟨rested, reported⟩ := ih (session.after operation) settled.rests
          refine ⟨rested, reported.trans ?_⟩
          rw [show (session.after operation).reported = _ from settled.reported, List.append_assoc]
          rfl
      | loop name => exact still (quiet (reaches_loop session name))
      | transfers busy => exact still (quiet (reaches_transfers session busy))

/-- Between operations the pool is at rest, whatever happened before. -/
theorem through_rests (key : AdapterKey) (host : η) (store : Store) (options : SessionOptions)
    (happenings : List Happening) :
    ((create key host store options).through happenings).device.pool.Rests options.requestPool :=
  (through_settles _ happenings (RequestPool.rests_ofCapacity options.requestPool)).1

/-- The layer above is told of the levels that the host asked for and got, once each and in order,
and of no other. No request is ever left pending, so that a pool of at least one slot is never
exhausted. -/
theorem reports_follow_host (key : AdapterKey) (host : η) (store : Store)
    (options : SessionOptions) (happenings : List Happening) {session : Session η}
    (reached : (create key host store options).through happenings = session) :
    session.reported = (create key host store options).granted happenings ∧
      session.device.pool.pending = [] ∧
      (0 < options.requestPool → ¬ Host.Exhausts η → ∀ operation : Operation,
        (operation.perform.exec session).1 ≠ .error .powerPoolExhausted) := by
  subst reached
  obtain ⟨rests, reported⟩ := through_settles (create key host store options) happenings
    (RequestPool.rests_ofCapacity options.requestPool)
  refine ⟨by simpa [create, absent, Session.reported] using reported, rests.pending, ?_⟩
  intro slots plain operation exhausted
  have settled := settles_perform operation rests _ rfl
  obtain empty | exhausts := settled.exhausted exhausted
  · exact absurd empty (Nat.ne_of_gt slots)
  · exact plain exhausts

/-- An idle device is suspended by the driver, woken by its client, and twice moved by the host, who
is refused once in between. -/
theorem reports_follow_host_around_client :
    let session := (create ⟨220, 15, 0⟩ ({} : ScriptedModem) {}
      { idleTimeout := some 0, requestPool := 1 }).through
      [.operation .start, .operation .open, .operation .close, .operation (.pollIdle 1000),
        .operation .open, .operation (.power (.setDevice .d3)), .operation .close, .transfers 1,
        .operation (.power (.setDevice .d3)), .transfers 0, .operation (.power (.setDevice .d3)),
        .loop .interrupt, .operation (.power (.setDevice .d0))]
    session.reported = [.d3, .d0] ∧ session.device.pool.pending = [] ∧
      ∀ operation : Operation,
        (operation.perform.exec session).1 ≠ .error .powerPoolExhausted := by
  intro session
  obtain ⟨reported, pending, unexhausted⟩ :=
    reports_follow_host _ _ _ _ _ (rfl : _ = session)
  refine ⟨reported.trans (by decide +kernel), pending, unexhausted Nat.one_pos ?_⟩
  rintro ⟨host, name, failed⟩
  simp only [Host.startLoop] at failed
  split at failed <;> cases failed

end Session

end Host

end ModemLink
