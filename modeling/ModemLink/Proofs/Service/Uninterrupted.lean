import Mathlib.Logic.Function.Iterate
import ModemLink.Service.Handshake

/-!
# Uninterrupted owners and threads

An owner and a thread that nobody comes between do what the operations of a `ThreadedLoop` do. A
thread shows as ended from the moment it takes a stop: what it does after that shows nothing.
-/

namespace ModemLink

/-- How a loop shows a thread: one that has taken a stop is as good as gone. -/
def ThreadStage.shown : ThreadStage → ThreadState
  | polling => .polling
  | ready => .ready
  | waiting => .waiting
  | closing _ | leaving | exited => .exited

/-- The acknowledgement that a thread still owes. -/
def ThreadStage.owed : ThreadStage → List StopTag
  | closing tag => [tag]
  | _ => []

def ThreadStage.isRunning : ThreadStage → Bool
  | polling | ready | waiting => true
  | _ => false

theorem ThreadStage.shown_running {stage : ThreadStage} (running : stage.isRunning = true) :
    stage.shown.isFinished = false := by
  cases stage <;> first | rfl | simp [isRunning] at running

namespace Handshake

variable {h : Handshake}

/-- The loop that the owner and its thread make up between them. -/
def loop (h : Handshake) : ThreadedLoop where
  name := h.name
  signals := h.signals
  acknowledged := h.acknowledged ++ h.current.elim [] fun thread => thread.stage.owed
  thread := h.current.map fun thread => thread.stage.shown
  stopping := h.stopping
  closedTag := h.closedTag
  built := h.former.length + h.current.toList.length

/-- A turn of the thread is a move of its loop, or shows nothing. -/
theorem turn_loop (h : Handshake) (step : LoopStep) :
    (h.turn step).loop =
      match h.loop.advance? (fun _ => (.done step, ())) () with
      | some (loop, ()) => loop
      | none => h.loop := by
  obtain ⟨name, signals, acknowledged, current, former, stopping, closedTag, duty⟩ := h
  cases current with
  | none => rfl
  | some thread =>
      obtain ⟨stage, asked⟩ := thread
      cases stage with
      | polling | waiting =>
          cases signals with
          | nil => rfl
          | cons signal signals =>
              cases signal <;>
                simp [turn, move, heed, loop, ThreadStage.shown, ThreadStage.owed,
                  ThreadedLoop.advance?, ThreadedLoop.obey, ThreadedLoop.exit]
      | ready => cases step <;> rfl
      | closing tag =>
          simp [turn, move, loop, ThreadStage.shown, ThreadStage.owed, ThreadedLoop.advance?]
      | leaving | exited => rfl

theorem ask_loop (h : Handshake) (tag : StopTag) (done : h.duty.isDone = true) :
    (h.call (.requestStop tag false)).loop = h.loop.requestStop tag := by
  obtain ⟨name, signals, acknowledged, current, former, stopping, closedTag, duty⟩ := h
  cases current with
  | none => simp [call, done, loop, ThreadedLoop.requestStop]
  | some thread =>
    cases stopping <;> simp [call, done, loop, ask, ThreadedLoop.requestStop, ThreadedLoop.send]

theorem collect_iterate (h : Handshake) (call : OwnerCall) (acknowledged : List StopTag) :
    proceed^[acknowledged.length + 1] { h with acknowledged, duty := .collecting call } = { h with
      acknowledged := [], stopping := false, duty := call.afterJoin
      closedTag := acknowledged.getLast?.or h.closedTag } := by
  induction acknowledged generalizing h with
  | nil => rfl
  | cons first acknowledged ih =>
      have rest := ih { h with closedTag := some first }
      rw [List.length_cons, Function.iterate_succ_apply, List.getLast?_cons]
      refine rest.trans ?_
      cases acknowledged.getLast? <;> rfl

theorem drain_iterate (h : Handshake) (signals : List Signal) :
    proceed^[signals.length + 2] { h with signals, duty := .draining } = { h with
      signals := [], current := some {}, former := h.current.toList ++ h.former
      duty := .returned .start true } := by
  induction signals with
  | nil => rfl
  | cons signal signals ih =>
      rw [List.length_cons, Nat.add_right_comm, Function.iterate_succ_apply]
      exact ih

/-- What the owner is left with when its thread is joined. -/
def joined (h : Handshake) (thread : Spawned) : Handshake :=
  { h with
    acknowledged := [], current := none, former := thread :: h.former, stopping := false
    closedTag := h.acknowledged.getLast?.or h.closedTag }

theorem join_iterate (h : Handshake) (call : OwnerCall) {thread : Spawned}
    (owned : h.current = some thread) (exited : thread.stage = .exited) :
    proceed^[h.acknowledged.length + 2] { h with duty := .joining call } =
      { h.joined thread with duty := call.afterJoin } := by
  have ended : ({ h with duty := .joining call } : Handshake).proceed =
      { h with current := none, former := thread :: h.former, duty := .collecting call } := by
    simp [proceed, owned, exited]
  rw [Function.iterate_succ_apply, ended]
  exact collect_iterate { h with current := none, former := thread :: h.former } call
    h.acknowledged

theorem joined_loop {thread : Spawned} (owned : h.current = some thread)
    (exited : thread.stage = .exited) : h.loop.reap = (.ok (), (h.joined thread).loop) := by
  simp [ThreadedLoop.reap, joined, loop, owned, exited, ThreadStage.shown, ThreadStage.owed]

theorem drained_loop (h : Handshake) (unowned : h.current = none) :
    ({ h with
      signals := [], current := some {}, former := h.current.toList ++ h.former
      duty := .returned .start true } : Handshake).loop = h.loop.spawn := by
  simp [loop, unowned, ThreadedLoop.spawn, ThreadStage.shown, ThreadStage.owed]

/-- The thread is not on its way out. -/
def settled (h : Handshake) : Bool :=
  h.current.all fun thread => thread.stage.isRunning || thread.stage == .exited

/-- A start that nobody comes between is the start of the loop. -/
theorem start_loop (h : Handshake) (done : h.duty.isDone = true) (settled : h.settled = true) :
    match h.loop.start? with
    | some (result, loop) => ∃ n, (proceed^[n] (h.call .start)).loop = loop ∧
        (proceed^[n] (h.call .start)).duty = .returned .start result.isOk
    | none => (h.call .start).proceed = h.call .start := by
  cases owned : h.current with
  | none =>
      have called : h.call .start = { h with duty := .draining } := by simp [call, done, owned]
      have started : h.loop.start? = some (.ok (), h.loop.spawn) := by
        simp [ThreadedLoop.start?, loop, owned]
      rw [started, called]
      refine ⟨h.signals.length + 2, ?_⟩
      rw [drain_iterate h h.signals]
      exact ⟨drained_loop h owned, rfl⟩
  | some thread =>
      have shown : h.loop.thread = some thread.stage.shown := by simp [loop, owned]
      cases asked : h.stopping with
      | false =>
          have started : h.loop.start? = some (.ok (), h.loop) := by
            have stopping : h.loop.stopping = false := asked
            simp [ThreadedLoop.start?, shown, stopping]
          have called : h.call .start = { h with duty := .returned .start true } := by
            simp [call, done, owned, asked]
          rw [started, called]
          exact ⟨0, rfl, rfl⟩
      | true =>
          have called : h.call .start = { h with duty := .joining .start } := by
            simp [call, done, owned, asked]
          by_cases exited : thread.stage = .exited
          · have started : h.loop.start? = some (.ok (), (h.joined thread).loop.spawn) := by
              have finished : thread.stage.shown.isFinished = true := by rw [exited]; rfl
              have stopping : h.loop.stopping = true := asked
              simp [ThreadedLoop.start?, shown, stopping, finished, joined_loop owned exited]
            rw [started, called]
            refine ⟨(h.signals.length + 2) + (h.acknowledged.length + 2), ?_⟩
            rw [Function.iterate_add_apply, join_iterate h .start owned exited]
            have drained := drain_iterate (h.joined thread) h.signals
            refine drained ▸ ⟨drained_loop (h.joined thread) rfl, rfl⟩
          · have running : thread.stage.isRunning = true := by
              simpa [Handshake.settled, owned, exited] using settled
            have waits : h.loop.start? = none := by
              have stopping : h.loop.stopping = true := asked
              simp [ThreadedLoop.start?, shown, stopping, ThreadStage.shown_running running]
            rw [waits, called]
            simp [proceed, owned, exited]

/-- An owner that waits for the acknowledgement is one that waits for the stop of the loop. -/
theorem await_loop (h : Handshake) (tag : StopTag) {thread : Spawned}
    (owned : h.current = some thread)
    (settled : thread.stage.isRunning = true ∨ thread.stage = .exited) :
    let waiting : Handshake := { h with duty := .awaiting tag }
    match h.loop.awaitStop? with
    | some (result, loop) => ∃ n, (proceed^[n] waiting).loop = loop ∧
        (proceed^[n] waiting).duty = .returned (.requestStop tag true) result.isOk
    | none => waiting.proceed.proceed = waiting.proceed := by
  intro waiting
  have shown : h.loop.thread = some thread.stage.shown := by simp [loop, owned]
  have owes : thread.stage.owed = [] := by
    obtain running | exited := settled
    · cases stage : thread.stage <;> simp_all [ThreadStage.isRunning, ThreadStage.owed]
    · rw [exited]; rfl
  have acks : h.loop.acknowledged = h.acknowledged := by simp [loop, owned, owes]
  cases answered : h.acknowledged with
  | nil =>
      have waits : h.loop.awaitStop? = none := by
        simp [ThreadedLoop.awaitStop?, shown, acks, answered]
      rw [waits]
      simp [waiting, proceed, answered]
  | cons first acknowledged =>
      let taken : Handshake := { h with acknowledged, closedTag := some first }
      have takes : waiting.proceed = { taken with duty := .joining (.requestStop tag true) } := by
        simp [waiting, taken, proceed, answered]
      obtain running | exited := settled
      · have waits : h.loop.awaitStop? = none := by
          simp [ThreadedLoop.awaitStop?, shown, acks, answered, ThreadStage.shown_running running]
        have runs : thread.stage ≠ .exited := fun exited => by
          simp [exited, ThreadStage.isRunning] at running
        rw [waits, takes]
        simp [taken, proceed, owned, runs]
      · have awaited : h.loop.awaitStop? = some (.ok (), (taken.joined thread).loop) := by
          have finished : thread.stage.shown.isFinished = true := by rw [exited]; rfl
          simp only [ThreadedLoop.awaitStop?, shown, acks, answered, finished, if_true]
          rw [← joined_loop (h := taken) owned exited]
          simp [taken, loop, owned, owes]
        rw [awaited]
        refine ⟨acknowledged.length + 2 + 1, ?_⟩
        rw [Function.iterate_succ_apply, takes, join_iterate taken _ owned exited]
        exact ⟨rfl, rfl⟩

theorem awaitStop_loop (h : Handshake) (tag : StopTag) (done : h.duty.isDone = true)
    (settled : h.settled = true) :
    let called := h.call (.requestStop tag true)
    match (h.loop.requestStop tag).awaitStop? with
    | some (result, loop) => ∃ n, (proceed^[n] called).loop = loop ∧
        (proceed^[n] called).duty = .returned (.requestStop tag true) result.isOk
    | none => called.proceed.proceed = called.proceed := by
  intro called
  cases owned : h.current with
  | none =>
      have asks : called = { h with duty := .returned (.requestStop tag true) true } := by
        simp [called, call, done, owned]
      have awaited : (h.loop.requestStop tag).awaitStop? = some (.ok (), h.loop) := by
        simp [ThreadedLoop.requestStop, ThreadedLoop.awaitStop?, loop, owned]
      rw [awaited, asks]
      exact ⟨0, rfl, rfl⟩
  | some thread =>
      have asks : called = { h.ask thread tag with duty := .awaiting tag } := by
        simp [called, call, done, owned]
      have asked : h.loop.requestStop tag = (h.ask thread tag).loop := by
        rw [← ask_loop h tag done]
        simp [call, done, owned, loop]
      rw [asked, asks]
      refine await_loop (h.ask thread tag) tag rfl ?_
      simpa [Handshake.settled, owned] using settled

end Handshake

end ModemLink
