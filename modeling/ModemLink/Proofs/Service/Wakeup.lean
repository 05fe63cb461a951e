import Mathlib.Logic.Function.Iterate
import ModemLink.Proofs.Dispatch.Delivery
import ModemLink.Scripted
import ModemLink.Service.Supply
import ModemLink.Session.Operation

/-!
# Wakeups

While the thread of a loop waits without a signal, there is work only if a producer is about to
kick: a step that passes a queue by leaves whatever is put there later to the kick of its producer.
-/

namespace ModemLink

open Act

/-! ## Looks -/

namespace Session

variable {η : Type}

theorem exec_get (session : Session η) :
    (get : Act η (Session η)).exec session = (.ok session, session) := rfl

variable [Host η] {session : Session η} {endpoint : UInt8} {frame : Bytes} {frames : List Bytes}
  {queues : Queues}

/-- The session after a frame was sent that came off a queue. -/
def sent (session : Session η) (queues : Queues) (endpoint : UInt8) (frame : Bytes) : Session η :=
  ((transmit endpoint frame).exec { session with device.queues := queues }).2

theorem exec_transmit (session : Session η) (endpoint : UInt8) (frame : Bytes) :
    (transmit endpoint frame).exec session =
      (.ok (), ((transmit endpoint frame).exec session).2) := by
  apply exec_of_result
  cases outcome : (Host.bulkOut endpoint frame writeTimeout session.host).1 <;>
    simp [transmit, exec_bind, Act.bulkOut, recordPipe, onStats, outcome]

theorem exec_sendPopped (session : Session η) (otherwise : Glance ⊕ LoopStep) :
    (sendPopped endpoint otherwise (some frame, queues)).exec session =
      (.ok (.inr .busy), session.sent queues endpoint frame) := by
  have transmits := exec_transmit { session with device.queues := queues } endpoint frame
  rw [sendPopped, onQueues, exec_bind_ok (exec_onDevice _ session), exec_bind_ok transmits]
  rfl

theorem exec_look_dispatch {glance : Glance} {step : LoopStep} {after : Session η}
    (stepped : dispatchStep.exec session = (.ok step, after)) :
    (look .dispatch glance).exec session = (.ok (.inr step), after) :=
  exec_bind_ok stepped

section Write

variable (serves : session.loops.write.endpoint = some endpoint)

include serves

theorem exec_look_write (glance : Glance) :
    (look .write glance).exec session =
      Act.exec (match glance with
        | .first => sendPopped endpoint (.inl .pauseFlag) session.device.queues.popControl
        | .pauseFlag => return if session.device.txPaused then .inr .idle else .inl .writeQueue
        | .writeQueue => sendPopped endpoint (.inr .idle) session.device.queues.popWrite)
        session := by
  simp only [look]
  rw [exec_bind_ok (exec_get session), serves]
  exact exec_bind_ok (exec_device session)

theorem exec_look_control_nil (control : session.device.queues.control = []) :
    (look .write .first).exec session = (.ok (.inl .pauseFlag), session) := by
  rw [exec_look_write serves]
  simp [Queues.popControl, control, sendPopped]

theorem exec_look_control_cons (control : session.device.queues.control = frame :: frames) :
    (look .write .first).exec session = (.ok (.inr .busy),
      session.sent { session.device.queues with control := frames } endpoint frame) := by
  rw [exec_look_write serves]
  simp [Queues.popControl, control, exec_sendPopped]

theorem exec_look_pauseFlag :
    (look .write .pauseFlag).exec session =
      (.ok (if session.device.txPaused then .inr .idle else .inl .writeQueue), session) := by
  rw [exec_look_write serves]
  rfl

theorem exec_look_write_nil (write : session.device.queues.write = []) :
    (look .write .writeQueue).exec session = (.ok (.inr .idle), session) := by
  rw [exec_look_write serves]
  simp [Queues.popWrite, write, sendPopped]

theorem exec_look_write_cons (write : session.device.queues.write = frame :: frames) :
    (look .write .writeQueue).exec session = (.ok (.inr .busy),
      session.sent { session.device.queues with write := frames } endpoint frame) := by
  rw [exec_look_write serves]
  simp [Queues.popWrite, write, exec_sendPopped]

theorem exec_writeStep_none
    (empty : (session.device.queues.popFrame session.device.txPaused).1 = none) :
    writeStep.exec session = (.ok .idle, session) := by
  cases popped : session.device.queues.popFrame session.device.txPaused with
  | mk found queues =>
      rw [popped] at empty
      cases empty
      simp [writeStep, exec_bind, exec_get, serves, popped]

theorem exec_writeStep_some
    (popped : session.device.queues.popFrame session.device.txPaused = (some frame, queues)) :
    writeStep.exec session = (.ok .busy, session.sent queues endpoint frame) := by
  have transmits := exec_transmit { session with device.queues := queues } endpoint frame
  rw [writeStep, exec_bind_ok (exec_get session), serves]
  simp only
  rw [exec_bind_ok (exec_device session), popped]
  simp only [onQueues]
  rw [exec_bind_ok (exec_onDevice _ session), exec_bind_ok transmits]
  rfl

end Write

/-- The looks of a step that nobody comes between. -/
inductive Looks (consumer : Consumer) (step : LoopStep) (after : Session η) :
    Glance → Session η → Prop
  | ends {glance : Glance} {session : Session η}
      (looked : (look consumer glance).exec session = (.ok (.inr step), after)) :
      Looks consumer step after glance session
  | goesOn {glance later : Glance} {session middle : Session η}
      (looked : (look consumer glance).exec session = (.ok (.inl later), middle))
      (rest : Looks consumer step after later middle) : Looks consumer step after glance session

theorem looks_dispatch (session : Session η) : ∃ step after,
    dispatchStep.exec session = (.ok step, after) ∧ Looks .dispatch step after .first session := by
  cases read : session.device.queues.read with
  | nil =>
      have stepped := exec_dispatchStep_nil read
      exact ⟨_, _, stepped, .ends (exec_look_dispatch stepped)⟩
  | cons buffer rest =>
      have stepped := exec_dispatchStep_cons read
      exact ⟨_, _, stepped, .ends (exec_look_dispatch stepped)⟩

theorem looks_write (serves : session.loops.write.endpoint = some endpoint) : ∃ step after,
    writeStep.exec session = (.ok step, after) ∧ Looks .write step after .first session := by
  cases control : session.device.queues.control with
  | cons frame frames =>
      refine ⟨_, _, exec_writeStep_some serves ?_, .ends (exec_look_control_cons serves control)⟩
      simp [Queues.popFrame, Queues.popControl, control]
  | nil =>
      have flag := exec_look_pauseFlag serves
      cases paused : session.device.txPaused with
      | true =>
          rw [paused] at flag
          refine ⟨_, _, exec_writeStep_none serves ?_,
            .goesOn (exec_look_control_nil serves control) (.ends flag)⟩
          simp [Queues.popFrame, control, paused]
      | false =>
          rw [paused] at flag
          cases write : session.device.queues.write with
          | nil =>
              refine ⟨_, _, exec_writeStep_none serves ?_,
                .goesOn (exec_look_control_nil serves control)
                  (.goesOn flag (.ends (exec_look_write_nil serves write)))⟩
              simp [Queues.popFrame, Queues.popWrite, control, paused, write]
          | cons frame frames =>
              refine ⟨_, _, exec_writeStep_some serves ?_,
                .goesOn (exec_look_control_nil serves control)
                  (.goesOn flag (.ends (exec_look_write_cons serves write)))⟩
              simp [Queues.popFrame, Queues.popWrite, control, paused, write]

end Session

namespace SupplyLine

variable {ι η : Type} {line : SupplyLine ι η}

/-! ## Uninterrupted moves -/

/-- A start that nobody comes between spawns the thread. -/
theorem starts_eq_spawn (unstarted : line.loop.thread = none) (idle : line.launch = .none) :
    start^[line.loop.signals.length + 3] line = { line with loop := line.loop.spawn } := by
  have drained (signals : List Signal) (line : SupplyLine ι η) (draining : line.launch = .draining)
      (queued : line.loop.signals = signals) :
      start^[signals.length + 2] line = { line with loop := line.loop.spawn, launch := .none } := by
    induction signals generalizing line with
    | nil => simp [start, draining, queued, ThreadedLoop.spawn]
    | cons signal signals ih =>
        rw [List.length_cons, Nat.add_right_comm, Function.iterate_succ_apply]
        simp only [start, draining, queued]
        exact ih _ rfl rfl
  have entered : line.start = { line with launch := .draining } := by
    simp [start, idle, unstarted]
  rw [Function.iterate_succ_apply, entered]
  rw [drained line.loop.signals { line with launch := .draining } rfl rfl, ← idle]

/-- Where a step leaves the thread. -/
def resting : BodyStep → ThreadState
  | .done .busy => .polling
  | .done .idle => .waiting
  | .panicked => .panicked

theorem advance_ready (ready : line.loop.thread = some .ready) (outcome : BodyStep) :
    line.advance outcome = { line with
      glance := .first
      loop := { line.loop with thread := some (resting outcome) } } := by
  unfold advance ThreadedLoop.advance?
  rw [ready]
  rcases outcome with (_ | _) | _ <;> rfl

variable [Host η]

theorem turn_looks {session : Session η} {glance : Glance} (ready : line.loop.thread = some .ready)
    (looked : (Session.look line.consumer line.glance).exec line.session =
      (.ok (.inl glance), session)) : line.turn = { line with session, glance } := by
  simp [turn, ready, looked]

theorem turn_ends {session : Session η} {step : LoopStep} (ready : line.loop.thread = some .ready)
    (looked : (Session.look line.consumer line.glance).exec line.session =
      (.ok (.inr step), session)) :
    line.turn = { line with
      session, glance := .first
      loop := { line.loop with thread := some (resting (.done step)) } } := by
  have moved : ({ line with session } : SupplyLine ι η).loop.thread = some .ready := ready
  simp [turn, ready, looked, advance_ready moved]

/-- Away from its body the thread makes the moves of its loop. -/
theorem turn_between (between : line.loop.thread ≠ some .ready) (first : line.glance = .first)
    {body : Session η → BodyStep × Session η} :
    line.turn = match line.loop.advance? body line.session with
      | some (loop, session) => { line with loop, session }
      | none => line := by
  obtain ⟨consumer, loop, session, glance, launch, owes⟩ := line
  obtain ⟨name, signals, acknowledged, thread, stopping, closedTag, built⟩ := loop
  cases first
  rw [turn, if_neg between, advance]
  rcases thread with _ | thread
  · rfl
  · cases thread with
    | ready => exact absurd rfl between
    | polling | waiting => cases signals <;> rfl
    | exited | panicked => rfl

theorem turns_of_looks (line : SupplyLine ι η) {consumer : Consumer} {step : LoopStep}
    {after session : Session η} {glance : Glance}
    (looks : Session.Looks consumer step after glance session) (serves : line.consumer = consumer)
    (here : line.session = session) (reached : line.glance = glance)
    (ready : line.loop.thread = some .ready) :
    ∃ n, turn^[n + 1] line = { line with
      session := after, glance := .first
      loop := { line.loop with thread := some (resting (.done step)) } } := by
  induction looks generalizing line with
  | ends looked =>
      subst serves here reached
      exact ⟨0, turn_ends ready looked⟩
  | @goesOn glance later session middle looked rest ih =>
      subst serves here reached
      obtain ⟨n, turned⟩ := ih { line with session := middle, glance := later } rfl rfl rfl ready
      refine ⟨n + 1, ?_⟩
      rw [Function.iterate_succ_apply, turn_looks ready looked, turned]

/-- The turns of the thread that nobody comes between are a move of its loop. -/
theorem turns_eq_advance (first : line.glance = .first)
    (serves : line.consumer = .write → line.session.loops.write.endpoint.isSome = true) :
    ∃ n, turn^[n + 1] line = match line.loop.advance? line.consumer.body line.session with
      | some (loop, session) => { line with loop, session }
      | none => line := by
  by_cases ready : line.loop.thread = some .ready
  · obtain ⟨step, after, stepped, looks⟩ : ∃ step after,
        (Session.step line.consumer.name).exec line.session = (.ok step, after) ∧
          Session.Looks line.consumer step after .first line.session := by
      cases consumer : line.consumer with
      | dispatch => exact Session.looks_dispatch line.session
      | write =>
          obtain ⟨endpoint, serves⟩ := Option.isSome_iff_exists.mp (serves consumer)
          exact Session.looks_write serves
    obtain ⟨n, turned⟩ := turns_of_looks line looks rfl rfl first ready
    refine ⟨n, turned.trans ?_⟩
    simp only [ThreadedLoop.advance?, ready, Consumer.body, stepped, ← first]
    cases step <;> rfl
  · exact ⟨0, turn_between ready first⟩

end SupplyLine

theorem ThreadedLoop.obey_awake {loop : ThreadedLoop} {next : ThreadState} {signal : Signal}
    (awake : next ≠ .waiting) : (loop.obey next signal).thread ≠ some .waiting := by
  cases signal <;> simp [obey, exit, awake]

/-! ## Work that is left -/

/-- There is work where the step has looked already. -/
def Glance.passed (d : Device) : Glance → Bool
  | first => false
  | pauseFlag | writeQueue => !d.queues.control.isEmpty

theorem Glance.passed_withdrawn {d : Device} {withdrawal : Withdrawal} {glance : Glance}
    (left : glance.passed (withdrawal.apply d) = true) : glance.passed d = true := by
  cases withdrawal <;> cases glance <;>
    simp_all [passed, Withdrawal.apply, Queues.purge, Queues.flush]

theorem Consumer.hasWork_withdrawn {d : Device} {withdrawal : Withdrawal} {consumer : Consumer}
    (left : consumer.hasWork (withdrawal.apply d) = true) : consumer.hasWork d = true := by
  cases withdrawal <;> cases consumer <;>
    simp_all [hasWork, Withdrawal.apply, Queues.purge, Queues.flush]

namespace Session

variable {η : Type} [Host η]

theorem sent_loops (session : Session η) (queues : Queues) (endpoint : UInt8) (frame : Bytes) :
    (session.sent queues endpoint frame).loops = session.loops := by
  cases outcome : (Host.bulkOut endpoint frame writeTimeout session.host).1 <;>
    simp [sent, transmit, exec_bind, Act.bulkOut, recordPipe, onStats, outcome]

/-- What a look finds. One that finds nothing leaves no work behind but what came after it. -/
inductive Finds (consumer : Consumer) (session : Session η) (glance : Glance) :
    Except DriverError (Glance ⊕ LoopStep) × Session η → Prop
  | work {after : Session η}
      (loops : consumer = .write → after.loops.write = session.loops.write) :
      Finds consumer session glance (.ok (.inr .busy), after)
  | nothing {later : Glance}
      (left : later.passed session.device = true → glance.passed session.device = true) :
      Finds consumer session glance (.ok (.inl later), session)
  | rest (left : consumer.hasWork session.device = true → glance.passed session.device = true) :
      Finds consumer session glance (.ok (.inr .idle), session)

theorem look_finds (consumer : Consumer) (glance : Glance) (session : Session η)
    (serves : consumer = .write → session.loops.write.endpoint.isSome = true) :
    Finds consumer session glance ((look consumer glance).exec session) := by
  cases consumer with
  | dispatch =>
      cases read : session.device.queues.read with
      | nil =>
          rw [exec_look_dispatch (exec_dispatchStep_nil read)]
          exact .rest (by simp [Consumer.hasWork, read])
      | cons buffer rest =>
          rw [exec_look_dispatch (exec_dispatchStep_cons read)]
          exact .work nofun
  | write =>
      obtain ⟨endpoint, serves⟩ := Option.isSome_iff_exists.mp (serves rfl)
      cases glance with
      | first =>
          cases control : session.device.queues.control with
          | nil =>
              rw [exec_look_control_nil serves control]
              exact .nothing (by simp [Glance.passed, control])
          | cons frame frames =>
              rw [exec_look_control_cons serves control]
              exact .work fun _ => by rw [sent_loops]
      | pauseFlag =>
          rw [exec_look_pauseFlag serves]
          cases paused : session.device.txPaused with
          | true => exact .rest (by simp [Consumer.hasWork, Glance.passed, paused])
          | false => exact .nothing id
      | writeQueue =>
          cases write : session.device.queues.write with
          | nil =>
              rw [exec_look_write_nil serves write]
              exact .rest (by simp [Consumer.hasWork, Glance.passed, write])
          | cons frame frames =>
              rw [exec_look_write_cons serves write]
              exact .work fun _ => by rw [sent_loops]

end Session

namespace SupplyLine

variable {ι η : Type} {line : SupplyLine ι η}

/-- Work that the thread will not find by itself. -/
def overlooked (line : SupplyLine ι η) : Bool :=
  match line.loop.thread with
  | some .waiting => line.hasWork
  | some .ready => line.glance.passed line.session.device
  | _ => false

structure Kept (line : SupplyLine ι η) : Prop where
  serves : line.consumer = .write → line.session.loops.write.endpoint.isSome = true
  /-- There is no thread while a start is under way. -/
  joined : line.launch ≠ .none → line.loop.thread = none
  answered : line.overlooked = true →
    line.loop.signals ≠ [] ∨ ∃ producer, line.owes producer = true

namespace Kept

theorem withdraw (kept : line.Kept) (withdrawal : Withdrawal) :
    (line.onDevice withdrawal.apply).Kept := by
  refine ⟨kept.serves, kept.joined, fun overlooked => kept.answered ?_⟩
  revert overlooked
  simp only [SupplyLine.overlooked, hasWork, onDevice]
  cases line.loop.thread with
  | none => exact id
  | some thread => cases thread with
    | waiting => exact Consumer.hasWork_withdrawn
    | ready => exact Glance.passed_withdrawn
    | _ => exact id

theorem start (kept : line.Kept) : line.start.Kept := by
  unfold SupplyLine.start
  split
  · exact kept
  · rename_i unstarted
    exact ⟨kept.serves, fun _ => unstarted, by simp [overlooked, unstarted]⟩
  · rename_i launch
    have unstarted := kept.joined (by simp [launch])
    split
    · exact ⟨kept.serves, fun _ => unstarted, by simp [overlooked, unstarted]⟩
    · exact ⟨kept.serves, fun _ => unstarted, by simp [overlooked, unstarted]⟩
  · exact ⟨kept.serves, by simp, by simp [overlooked]⟩

theorem idle (kept : line.Kept) {thread : ThreadState} (state : line.loop.thread = some thread) :
    line.launch = .none := by
  by_contra launching
  simp [kept.joined launching] at state

/-- Nothing is overlooked by a step that is still to come. -/
theorem afresh (idle : line.launch = .none) {loop : ThreadedLoop} {session : Session η}
    (serves : line.consumer = .write → session.loops.write.endpoint.isSome = true)
    (awake : loop.thread ≠ some .waiting) :
    ({ line with loop, session, glance := .first } : SupplyLine ι η).Kept := by
  refine ⟨serves, fun launching => absurd idle launching, ?_⟩
  simp only [overlooked]
  split
  · exact absurd ‹_› awake
  · simp [Glance.passed]
  · simp

theorem advance (kept : line.Kept) (between : line.loop.thread ≠ some .ready)
    (outcome : BodyStep) : (line.advance outcome).Kept := by
  rw [SupplyLine.advance]
  cases state : line.loop.thread with
  | none => simpa [ThreadedLoop.advance?, state] using kept
  | some thread =>
      have idle := kept.idle state
      cases thread with
      | ready => exact absurd state between
      | exited | panicked => simpa [ThreadedLoop.advance?, state] using kept
      | polling =>
          cases signals : line.loop.signals with
          | nil =>
              simp only [ThreadedLoop.advance?, state, signals]
              exact afresh idle kept.serves (by simp)
          | cons signal rest =>
              simp only [ThreadedLoop.advance?, state, signals]
              exact afresh idle kept.serves (ThreadedLoop.obey_awake nofun)
      | waiting =>
          cases signals : line.loop.signals with
          | nil => simpa [ThreadedLoop.advance?, state, signals] using kept
          | cons signal rest =>
              simp only [ThreadedLoop.advance?, state, signals]
              exact afresh idle kept.serves (ThreadedLoop.obey_awake nofun)

variable [Host η]

theorem turn (kept : line.Kept) : line.turn.Kept := by
  by_cases ready : line.loop.thread = some .ready
  · have idle := kept.idle ready
    have before : line.overlooked = line.glance.passed line.session.device := by
      simp [overlooked, ready]
    have finds := Session.look_finds line.consumer line.glance line.session kept.serves
    rw [SupplyLine.turn, if_pos ready]
    generalize (Session.look line.consumer line.glance).exec line.session = outcome at finds
    cases finds with
    | @work after loops =>
        dsimp only
        have moved : ({ line with session := after } : SupplyLine ι η).loop.thread = some .ready :=
          ready
        rw [advance_ready moved]
        refine afresh idle (fun write => ?_) (by simp [resting])
        rw [loops write]
        exact kept.serves write
    | @nothing later left =>
        refine ⟨kept.serves, kept.joined, fun overlooked => kept.answered ?_⟩
        rw [before]
        apply left
        simpa [SupplyLine.overlooked, ready] using overlooked
    | rest left =>
        dsimp only
        rw [advance_ready ready]
        refine ⟨kept.serves, fun launching => absurd idle launching, fun overlooked =>
          kept.answered ?_⟩
        rw [before]
        apply left
        simpa [SupplyLine.overlooked, hasWork, resting] using overlooked
  · rw [SupplyLine.turn, if_neg ready]
    exact kept.advance ready _

variable [DecidableEq ι]

theorem next (kept : line.Kept) (move : Move ι) : (line.next move).Kept := by
  cases move with
  | supply producer supply =>
      exact ⟨kept.serves, kept.joined, fun _ => .inr ⟨producer, by simp [SupplyLine.next]⟩⟩
  | kick producer =>
      refine ⟨kept.serves, kept.joined, fun _ => .inl ?_⟩
      simp [SupplyLine.next, ThreadedLoop.kick, ThreadedLoop.send]
  | withdraw withdrawal => exact kept.withdraw withdrawal
  | start => exact kept.start
  | turn => exact kept.turn

theorem run (kept : line.Kept) (moves : List (Move ι)) : (line.run moves).Kept := by
  induction moves generalizing line with
  | nil => exact kept
  | cons move moves ih => exact ih (kept.next move)

end Kept

variable [Host η] [DecidableEq ι]

/-- Whatever turns the producers, the thread and its owner take: when the thread waits without a
signal and there is work, a producer has made its change and is about to kick. -/
theorem no_wakeup_is_lost (consumer : Consumer) (loop : ThreadedLoop) (session : Session η)
    (moves : List (Move ι)) (unstarted : loop.thread = none)
    (serves : consumer = .write → session.loops.write.endpoint.isSome = true)
    {line : SupplyLine ι η} (reached : run { consumer, loop, session } moves = line)
    (waits : line.loop.thread = some .waiting) (silent : line.loop.signals = [])
    (work : line.hasWork = true) : ∃ producer, line.owes producer = true := by
  have initially : ({ consumer, loop, session } : SupplyLine ι η).Kept :=
    ⟨serves, fun _ => unstarted, by simp [overlooked, unstarted]⟩
  have kept : line.Kept := reached ▸ initially.run moves
  obtain signalled | owed := kept.answered (by simpa [overlooked, waits] using work)
  · exact absurd silent signalled
  · exact owed

/-- A start throws an old kick away, and the step passes the control queue by before a frame is
put there: once the thread waits, the producer of that frame owes the kick. -/
theorem no_wakeup_is_lost_behind_step :
    let session := (Session.create ⟨220, 20, 0⟩ ({} : ScriptedModem) {} {}).run [.start, .open]
    let stale : ThreadedLoop := { name := "write", signals := [.kick] }
    let line : SupplyLine Bool ScriptedModem :=
      run { consumer := .write, loop := stale, session } [.start, .start, .start, .start, .turn,
        .turn, .supply true (.control [0x7E]), .turn, .turn]
    line.loop.thread = some .waiting ∧ line.loop.built = 1 ∧
      ∃ producer, line.owes producer = true := by
  intro session stale line
  have waits : line.loop.thread = some .waiting := by decide +kernel
  refine ⟨waits, by decide +kernel, ?_⟩
  exact no_wakeup_is_lost .write stale session _ rfl (fun _ => by decide +kernel) rfl waits
    (by decide +kernel) (by decide +kernel)

end SupplyLine

end ModemLink
