import ModemLink.Proofs.Session.Execution
import ModemLink.Session.Pipes

/-!
# Pipe resets

A start resets the pipes that exist in a fixed order, and the whole row again after a failure. The
attempts are bounded, all but the last one fail, and what is recorded of a pipe is how its last
reset ended.
-/

namespace ModemLink

open Act

/-- One reset of a pipe, and how it ended. -/
structure PipeReset where
  role : PipeRole
  endpoint : UInt8
  result : Except UsbError Unit

namespace PipeReset

def event (reset : PipeReset) : Event := .resetPipe reset.endpoint reset.result

def failure? (reset : PipeReset) : Option UsbError :=
  match reset.result with
  | .ok _ => none
  | .error e => some e

end PipeReset

/-- An attempt at these pipes: one after the other, up to the first failure. -/
inductive ResetAttempt :
    List (PipeRole × UInt8) → List PipeReset → Except UsbError Unit → Prop
  | done : ResetAttempt [] [] (.ok ())
  | failed (role : PipeRole) (endpoint : UInt8) (rest : List (PipeRole × UInt8)) (e : UsbError) :
      ResetAttempt ((role, endpoint) :: rest) [⟨role, endpoint, .error e⟩] (.error e)
  | passed {role : PipeRole} {endpoint : UInt8} {rest : List (PipeRole × UInt8)}
      {resets : List PipeReset} {outcome : Except UsbError Unit}
      (later : ResetAttempt rest resets outcome) :
      ResetAttempt ((role, endpoint) :: rest) (⟨role, endpoint, .ok ()⟩ :: resets) outcome

/-- Attempts at these pipes until one succeeds, at most `limit` of them. -/
structure ResetCourse (limit : Nat) (pipes : List (PipeRole × UInt8)) where
  failures : List (List PipeReset)
  last : List PipeReset
  outcome : Except UsbError Unit
  failed : ∀ attempt ∈ failures, ∃ e, ResetAttempt pipes attempt (.error e)
  ended : ResetAttempt pipes last outcome
  bounded : failures.length + 1 ≤ limit
  exhausted : ∀ e, outcome = .error e → failures.length + 1 = limit

namespace ResetCourse

variable {limit : Nat} {pipes : List (PipeRole × UInt8)}

/-- All resets, in order. -/
def resets (course : ResetCourse limit pipes) : List PipeReset :=
  course.failures.flatten ++ course.last

/-- No attempt but the first one. -/
def single {resets : List PipeReset} {outcome : Except UsbError Unit}
    (attempt : ResetAttempt pipes resets outcome)
    (enough : ∀ e, outcome = .error e → limit = 0) : ResetCourse (limit + 1) pipes where
  failures := []
  last := resets
  outcome := outcome
  failed := nofun
  ended := attempt
  bounded := Nat.le_add_left 1 limit
  exhausted e same := by rw [enough e same]; rfl

/-- A failure in front of the other attempts. -/
def retry {resets : List PipeReset} {e : UsbError} (course : ResetCourse limit pipes)
    (attempt : ResetAttempt pipes resets (.error e)) : ResetCourse (limit + 1) pipes where
  failures := resets :: course.failures
  last := course.last
  outcome := course.outcome
  failed := List.forall_mem_cons.mpr ⟨⟨e, attempt⟩, course.failed⟩
  ended := course.ended
  bounded := Nat.succ_le_succ course.bounded
  exhausted e same := congrArg Nat.succ (course.exhausted e same)

end ResetCourse

/-- The pipes of these roles that exist. -/
def Device.pipesOf (d : Device) (roles : List PipeRole) : List (PipeRole × UInt8) :=
  roles.filterMap fun role => (d.endpoint? role).map fun endpoint => (role, endpoint)

/-- The pipes that are reset, in order. -/
def Device.resetPipes (d : Device) : List (PipeRole × UInt8) :=
  d.pipesOf [.interrupt, .bulkIn, .bulkOut]

variable {η : Type} [Host η] {limit : Nat}

/-- The results are the answers of the host, call after call. -/
inductive Host.Answered : η → List PipeReset → Prop
  | done (host : η) : Answered host []
  | asked {host : η} {rest : List PipeReset} (role : PipeRole) (endpoint : UInt8)
      (later : Answered (Host.resetPipe endpoint host).2 rest) :
      Answered host (⟨role, endpoint, (Host.resetPipe endpoint host).1⟩ :: rest)

namespace Session

variable {session : Session η}

/-- The session after a reset: the host was asked, and the pipe has a new status. -/
def afterReset (session : Session η) (reset : PipeReset) : Session η :=
  { session with
    host := (Host.resetPipe reset.endpoint session.host).2
    trace := session.trace.push reset.event
    device.pipes := session.device.pipes.set reset.role.tracked reset.failure? }

def afterResets (session : Session η) (resets : List PipeReset) : Session η :=
  resets.foldl afterReset session

/-! ## One pipe -/

theorem exec_resetRole_none {role : PipeRole} (missing : session.device.endpoint? role = none) :
    (resetRole role : Act η Unit).exec session = (.ok (), session) := by
  unfold resetRole
  rw [exec_bind_ok (exec_device session), missing]
  rfl

theorem exec_resetRole_some {role : PipeRole} {endpoint : UInt8}
    (found : session.device.endpoint? role = some endpoint) :
    (resetRole role : Act η Unit).exec session =
      ((Host.resetPipe endpoint session.host).1.mapError DriverError.transport,
        session.afterReset ⟨role, endpoint, (Host.resetPipe endpoint session.host).1⟩) := by
  unfold resetRole
  rw [exec_bind_ok (exec_device session), found]
  cases answer : Host.resetPipe endpoint session.host with
  | mk result host =>
      have asked : (resetPipe endpoint : Act η _).exec session =
          (.ok result, { session with
            host, trace := session.trace.push (.resetPipe endpoint result) }) := by
        unfold resetPipe
        rw [exec_bind_ok (exec_onHost _ _), exec_bind_ok (exec_emit _ _), answer]
        rfl
      dsimp only
      rw [exec_bind_ok asked]
      cases result <;> simp only [afterReset, answer] <;> rfl

/-! ## One attempt -/

theorem resetTriple_eq :
    (resetTriple : Act η Unit) = [.interrupt, .bulkIn, .bulkOut].forM resetRole := by
  simp [resetTriple]

theorem exec_resetRoles (roles : List PipeRole) (session : Session η) :
    ∃ resets outcome, ResetAttempt (session.device.pipesOf roles) resets outcome ∧
      Host.Answered session.host resets ∧
      (roles.forM resetRole : Act η Unit).exec session =
        (outcome.mapError DriverError.transport, session.afterResets resets) := by
  induction roles generalizing session with
  | nil => exact ⟨[], .ok (), .done, .done _, rfl⟩
  | cons role roles ih =>
      change ∃ resets outcome, _ ∧ _ ∧
        (resetRole role >>= fun _ => roles.forM resetRole : Act η Unit).exec session = _
      cases found : session.device.endpoint? role with
      | none =>
          rw [exec_bind_ok (exec_resetRole_none found)]
          simpa [Device.pipesOf, found] using ih session
      | some endpoint =>
          have pipes : session.device.pipesOf (role :: roles) =
              (role, endpoint) :: session.device.pipesOf roles := by
            simp [Device.pipesOf, found]
          have reset := exec_resetRole_some found
          rw [pipes]
          generalize answered : (Host.resetPipe endpoint session.host).1 = result at reset
          cases result with
          | error e =>
              refine ⟨_, _, .failed role endpoint _ e, answered ▸ .asked role endpoint (.done _), ?_⟩
              rw [exec_bind, reset]
              rfl
          | ok _ =>
              obtain ⟨resets, outcome, attempt, later, ran⟩ :=
                ih (session.afterReset ⟨role, endpoint, .ok ()⟩)
              refine ⟨_, outcome, .passed attempt, answered ▸ .asked role endpoint later, ?_⟩
              rw [exec_bind_ok reset, ran]
              rfl

/-! ## Attempts -/

theorem afterResets_append (session : Session η) (first second : List PipeReset) :
    session.afterResets (first ++ second) = (session.afterResets first).afterResets second :=
  List.foldl_append

theorem endpoint?_afterResets (session : Session η) (resets : List PipeReset) (role : PipeRole) :
    (session.afterResets resets).device.endpoint? role = session.device.endpoint? role := by
  induction resets generalizing session with
  | nil => rfl
  | cons reset resets ih => exact ih (session.afterReset reset)

theorem resetPipes_afterResets (session : Session η) (resets : List PipeReset) :
    (session.afterResets resets).device.resetPipes = session.device.resetPipes := by
  simp only [Device.resetPipes, Device.pipesOf, endpoint?_afterResets]

theorem answered_append (session : Session η) {first second : List PipeReset}
    (answered : Host.Answered session.host first)
    (later : Host.Answered (session.afterResets first).host second) :
    Host.Answered session.host (first ++ second) := by
  induction first generalizing session with
  | nil => exact later
  | cons reset first ih =>
      cases answered with
      | asked role endpoint answered =>
          exact .asked role endpoint
            (ih (session.afterReset ⟨role, endpoint, _⟩) answered later)

theorem exec_resetWithRetry (retries : Nat) (session : Session η) :
    ∃ course : ResetCourse (retries + 1) session.device.resetPipes,
      Host.Answered session.host course.resets ∧
        (resetWithRetry retries : Act η Unit).exec session =
          (course.outcome.mapError DriverError.transport, session.afterResets course.resets) := by
  induction retries generalizing session with
  | zero =>
      obtain ⟨resets, outcome, attempt, answered, ran⟩ :=
        exec_resetRoles [.interrupt, .bulkIn, .bulkOut] session
      refine ⟨.single attempt fun _ _ => rfl, answered, ?_⟩
      rw [resetWithRetry, resetTriple_eq, ran]
      rfl
  | succ retries ih =>
      obtain ⟨resets, outcome, attempt, answered, ran⟩ :=
        exec_resetRoles [.interrupt, .bulkIn, .bulkOut] session
      rw [resetWithRetry, exec_tryCatch, resetTriple_eq, ran]
      cases outcome with
      | ok _ => exact ⟨.single attempt nofun, answered, rfl⟩
      | error e =>
          have again := ih (session.afterResets resets)
          rw [resetPipes_afterResets] at again
          obtain ⟨course, later, rerun⟩ := again
          have joined : (course.retry attempt).resets = resets ++ course.resets := by
            simp [ResetCourse.resets, ResetCourse.retry]
          refine ⟨course.retry attempt, ?_, ?_⟩
          · rw [joined]
            exact answered_append session answered later
          · rw [joined, afterResets_append]
            exact rerun

/-! ## Recorded statuses -/

theorem get_afterResets_other (session : Session η) {resets : List PipeReset} {pipe : TrackedPipe}
    (others : ∀ reset ∈ resets, reset.role.tracked ≠ pipe) :
    (session.afterResets resets).device.pipes.get pipe = session.device.pipes.get pipe := by
  induction resets generalizing session with
  | nil => rfl
  | cons reset resets ih =>
      obtain ⟨other, others⟩ := List.forall_mem_cons.mp others
      have kept := ih (session.afterReset reset) others
      rw [afterReset, PipeStatus.get_set, if_neg other.symm] at kept
      exact kept

/-- Resets that all succeed leave no failure on a pipe that is among them. -/
theorem get_afterResets_none (session : Session η) {resets : List PipeReset} {pipe : TrackedPipe}
    (succeeded : ∀ reset ∈ resets, reset.failure? = none)
    (reached : session.device.pipes.get pipe = none ∨
      ∃ reset ∈ resets, reset.role.tracked = pipe) :
    (session.afterResets resets).device.pipes.get pipe = none := by
  induction resets generalizing session with
  | nil =>
      obtain healthy | ⟨reset, nowhere, -⟩ := reached
      · exact healthy
      · cases nowhere
  | cons reset resets ih =>
      obtain ⟨success, succeeded⟩ := List.forall_mem_cons.mp succeeded
      apply ih (session.afterReset reset) succeeded
      rw [afterReset, PipeStatus.get_set]
      by_cases same : pipe = reset.role.tracked
      · exact .inl (by rw [if_pos same, success])
      · rw [if_neg same]
        obtain healthy | ⟨other, member, tracks⟩ := reached
        · exact .inl healthy
        · obtain rfl | later := List.mem_cons.mp member
          · exact absurd tracks.symm same
          · exact .inr ⟨other, later, tracks⟩

end Session

theorem PipeRole.tracked_injective {role other : PipeRole} (same : role.tracked = other.tracked) :
    role = other := by
  cases role <;> cases other <;> first | rfl | cases same

namespace ResetAttempt

variable {pipes : List (PipeRole × UInt8)} {resets : List PipeReset}
  {outcome : Except UsbError Unit}

theorem succeeded_iff (attempt : ResetAttempt pipes resets outcome) :
    outcome = .ok () ↔ ∀ reset ∈ resets, reset.result = .ok () := by
  induction attempt with
  | done => simp
  | failed => simp
  | passed _ ih => simpa using ih

/-- An attempt that succeeds gets to every pipe. -/
theorem reaches (attempt : ResetAttempt pipes resets outcome) (succeeded : outcome = .ok ()) :
    ∀ pipe ∈ pipes, ∃ reset ∈ resets, reset.role = pipe.1 := by
  induction attempt with
  | done => exact nofun
  | failed => cases succeeded
  | passed _ ih =>
      refine List.forall_mem_cons.mpr ⟨⟨_, List.mem_cons_self, rfl⟩, ?_⟩
      intro pipe member
      obtain ⟨reset, later, same⟩ := ih succeeded pipe member
      exact ⟨reset, List.mem_cons_of_mem _ later, same⟩

end ResetAttempt

theorem Device.mem_resetPipes {d : Device} {role : PipeRole} {endpoint : UInt8}
    (found : d.endpoint? role = some endpoint) : (role, endpoint) ∈ d.resetPipes := by
  apply List.mem_filterMap.mpr ⟨role, ?_, by rw [found]; rfl⟩
  cases role <;> simp

namespace Session

variable {session : Session η}

theorem get_afterResets_last {before later : List PipeReset} {reset : PipeReset}
    (last : ∀ other ∈ later, other.role ≠ reset.role) :
    (session.afterResets (before ++ reset :: later)).device.pipes.get reset.role.tracked =
      reset.failure? := by
  rw [afterResets_append]
  change (afterResets (afterReset _ reset) later).device.pipes.get _ = _
  rw [get_afterResets_other _ fun other member same =>
    last other member (PipeRole.tracked_injective same)]
  rw [afterReset, PipeStatus.get_set, if_pos rfl]

theorem get_afterResets_succeeded {course : ResetCourse limit session.device.resetPipes}
    (succeeded : course.outcome = .ok ()) {role : PipeRole}
    (found : (session.device.endpoint? role).isSome) :
    (session.afterResets course.resets).device.pipes.get role.tracked = none := by
  obtain ⟨endpoint, found⟩ := Option.isSome_iff_exists.mp found
  obtain ⟨reset, member, same⟩ :=
    course.ended.reaches succeeded _ (Device.mem_resetPipes found)
  rw [ResetCourse.resets, afterResets_append]
  apply get_afterResets_none
  · intro other among
    rw [PipeReset.failure?, (course.ended.succeeded_iff.mp succeeded) other among]
  · exact .inr ⟨reset, member, congrArg PipeRole.tracked same⟩

/-- Whatever the host answers, a reset of the pipes is a course of at most ten attempts, and its
last attempt is its outcome. -/
theorem pipes_are_reset_within_ten_attempts (session : Session η) :
    ∃ course : ResetCourse 10 session.device.resetPipes,
      let after := session.afterResets course.resets
      Host.Answered session.host course.resets ∧
        (resetPipes : Act η Unit).exec session =
          (course.outcome.mapError DriverError.transport, after) ∧
        (course.outcome = .ok () ↔ ∀ reset ∈ course.last, reset.result = .ok ()) ∧
        (∀ before reset later, course.resets = before ++ reset :: later →
          (∀ other ∈ later, other.role ≠ reset.role) →
            after.device.pipes.get reset.role.tracked = reset.failure?) ∧
        (course.outcome = .ok () → ∀ role, (session.device.endpoint? role).isSome →
          after.device.pipes.get role.tracked = none) := by
  obtain ⟨course, answered, ran⟩ := exec_resetWithRetry (resetAttempts - 1) session
  refine ⟨course, answered, ran, course.ended.succeeded_iff, ?_, ?_⟩
  · intro before reset later split last
    rw [split]
    exact get_afterResets_last last
  · intro succeeded role found
    exact get_afterResets_succeeded succeeded found

end Session

end ModemLink
