import ModemLink.Service

/-!
# How long a stop takes

A stop lines up behind the signals that were sent before it, and the thread takes one signal for
each step: a loop that is asked to stop works its backlog of kicks off first. Kicks that come later
stand behind the stop and delay nothing.
-/

namespace ModemLink

/-- What happens to a loop that its owner leaves alone. -/
inductive Beat where
  | kick
  | turn
  deriving DecidableEq, Repr

/-- Steps that a thread has set out for and not begun. -/
def ThreadState.owed : ThreadState → Nat
  | ready => 1
  | _ => 0

namespace ThreadedLoop

variable {σ : Type}

/-- A body that counts the steps it begins. -/
def counted (body : σ → BodyStep × σ) (state : σ × Nat) : BodyStep × (σ × Nat) :=
  ((body state.1).1, (body state.1).2, state.2 + 1)

def beat (body : σ → BodyStep × σ) (reached : ThreadedLoop × σ) : Beat → ThreadedLoop × σ
  | .kick => (reached.1.kick, reached.2)
  | .turn => (reached.1.advance? body reached.2).getD reached

def beats (body : σ → BodyStep × σ) (reached : ThreadedLoop × σ) (moves : List Beat) :
    ThreadedLoop × σ :=
  moves.foldl (beat body) reached

/-- A loop with a stop in its queue: how many steps its thread may still begin, and after how many
of its turns it is finished. -/
inductive Doomed (steps turns : Nat) (loop : ThreadedLoop) : Prop
  | ended (finished : loop.isRunning = false) : Doomed steps turns loop
  | underway {thread : ThreadState} {ahead behind : List Signal} {tag : StopTag}
      (state : loop.thread = some thread) (queued : loop.signals = ahead ++ .stop tag :: behind)
      (beginning : ahead.length + thread.owed ≤ steps)
      (turning : 2 * (ahead.length + 1) + thread.owed ≤ turns) : Doomed steps turns loop

theorem advance?_of_finished {loop : ThreadedLoop} (finished : loop.isRunning = false)
    (body : σ → BodyStep × σ) (state : σ) : loop.advance? body state = none := by
  unfold advance?
  rw [isRunning] at finished
  split <;> first | rfl | simp_all [ThreadState.isFinished]

namespace Doomed

variable {steps turns : Nat} {loop : ThreadedLoop}

theorem kick (doomed : loop.Doomed steps turns) : loop.kick.Doomed steps turns := by
  cases doomed with
  | ended finished => exact .ended finished
  | @underway thread ahead behind tag state queued beginning turning =>
      have later : loop.kick.signals = ahead ++ .stop tag :: (behind ++ [.kick]) := by
        rw [ThreadedLoop.kick, send, queued, List.append_assoc, List.cons_append]
      exact .underway state later beginning turning

/-- The first signal is taken: a stop ends the thread, and a kick is one less in its way. -/
theorem obey {next : ThreadState} {signal : Signal} {signals ahead behind : List Signal}
    {tag : StopTag} (queued : signal :: signals = ahead ++ .stop tag :: behind)
    (owed : next.owed ≤ 1) (beginning : ahead.length ≤ steps)
    (turning : 2 * (ahead.length + 1) ≤ turns) :
    ({ loop with signals }.obey next signal).Doomed steps (turns - 1) := by
  cases signal with
  | stop first => exact .ended rfl
  | kick =>
      cases ahead with
      | nil => simp at queued
      | cons first ahead =>
          obtain ⟨-, queued⟩ := List.cons.inj queued
          rw [List.length_cons] at beginning turning
          exact .underway rfl queued (by omega) (by omega)

/-- A turn of the thread begins at most one step, and that one was allowed for. -/
theorem turn (doomed : loop.Doomed steps turns) (body : σ → BodyStep × σ) (state : σ)
    (begun : Nat) :
    ∃ rest, (beat (counted body) (loop, state, begun) .turn).2.2 + rest ≤ begun + steps ∧
      (beat (counted body) (loop, state, begun) .turn).1.Doomed rest (turns - 1) := by
  have stays (finished : loop.isRunning = false) :
      ∃ rest, (beat (counted body) (loop, state, begun) .turn).2.2 + rest ≤ begun + steps ∧
        (beat (counted body) (loop, state, begun) .turn).1.Doomed rest (turns - 1) := by
    rw [beat, advance?_of_finished finished]
    exact ⟨steps, Nat.le_refl _, .ended finished⟩
  cases doomed with
  | ended finished => exact stays finished
  | @underway thread ahead behind tag stands queued beginning turning =>
      cases signals : loop.signals with
      | nil => simp [signals] at queued
      | cons signal signals' =>
          rw [signals] at queued
          cases thread with
          | polling | waiting =>
              simp only [beat, advance?, stands, signals, Option.getD_some]
              exact ⟨steps, Nat.le_refl _, obey queued (by decide) beginning turning⟩
          | ready =>
              simp only [ThreadState.owed] at beginning turning
              simp only [beat, advance?, stands, signals, Option.getD_some, counted]
              refine ⟨ahead.length, by omega, ?_⟩
              rcases (body state).1 with (_ | _) | _
              · exact .underway rfl queued (Nat.le_refl _) (by simp only [ThreadState.owed]; omega)
              · exact .underway rfl queued (Nat.le_refl _) (by simp only [ThreadState.owed]; omega)
              · exact .ended rfl
          | exited | panicked =>
              exact stays (by simp [isRunning, stands, ThreadState.isFinished])

theorem beats (doomed : loop.Doomed steps turns) (body : σ → BodyStep × σ) (state : σ)
    (begun : Nat) (moves : List Beat) :
    ∃ rest, (ThreadedLoop.beats (counted body) (loop, state, begun) moves).2.2 + rest ≤
        begun + steps ∧
      (ThreadedLoop.beats (counted body) (loop, state, begun) moves).1.Doomed rest
        (turns - moves.count .turn) := by
  -- What a turn begins comes off the bound for the rest of the run.
  induction moves generalizing loop steps turns state begun with
  | nil => exact ⟨steps, Nat.le_refl _, doomed⟩
  | cons move moves ih =>
      cases move with
      | kick => exact ih doomed.kick state begun
      | turn =>
          obtain ⟨left, allowed, doomed⟩ := doomed.turn body state begun
          obtain ⟨rest, allowed', doomed⟩ := ih doomed _ _
          refine ⟨rest, Nat.le_trans allowed' allowed, ?_⟩
          rwa [List.count_cons_self, Nat.add_comm, ← Nat.sub_sub]

theorem finished {turns : Nat} (doomed : loop.Doomed steps turns) (spent : turns = 0) :
    loop.isRunning = false := by
  cases doomed with
  | ended finished => exact finished
  | underway state queued beginning turning => omega

end Doomed

/-- However long the queue of a running loop, whatever its body does and however often it is kicked:
after a stop its thread begins a step for each signal that was there before and one more, and it
is finished once it had the turns for them. -/
theorem stop_waits_for_backlog (body : σ → BodyStep × σ) (state : σ) (loop : ThreadedLoop)
    (tag : StopTag) (moves : List Beat) (running : loop.isRunning = true)
    (unasked : loop.stopping = false) :
    let reached := beats (counted body) (loop.requestStop tag, state, 0) moves
    reached.2.2 ≤ loop.signals.length + 1 ∧
      (2 * loop.signals.length + 3 ≤ moves.count .turn → reached.1.isRunning = false) := by
  intro reached
  obtain ⟨thread, stands, -⟩ := (Option.any_eq_true _ _).mp running
  have asked : loop.requestStop tag = { loop.send (.stop tag) with stopping := true } := by
    simp [requestStop, stands, unasked]
  have owed : thread.owed ≤ 1 := by cases thread <;> decide
  have doomed : (loop.requestStop tag).Doomed (loop.signals.length + 1)
      (2 * loop.signals.length + 3) := by
    rw [asked]
    exact .underway stands rfl (by omega) (by omega)
  obtain ⟨rest, allowed, doomed⟩ := doomed.beats body state 0 moves
  refine ⟨?_, fun patient => doomed.finished (by omega)⟩
  simp only [reached]
  omega

/-- A body that always finds something to do. -/
def tireless : Unit → BodyStep × Unit := fun _ => (.done .busy, ())

/-- The thread is finished after nine turns, also when more kicks come in between. -/
theorem stop_waits_for_backlog_of_three :
    let loop := ({ name := "write" } : ThreadedLoop).spawn.kick.kick.kick
    let moves := .kick :: List.replicate 4 .turn ++ .kick :: List.replicate 5 .turn
    let reached := beats (counted tireless) (loop.requestStop ⟨32⟩, (), 0) moves
    reached.2.2 ≤ 4 ∧ reached.1.isRunning = false := by
  intro loop moves reached
  have waits := stop_waits_for_backlog tireless () loop ⟨32⟩ moves rfl rfl
  exact ⟨waits.1, waits.2 (by decide)⟩

/-- The bound is met: a thread whose body is always busy begins a step for each kick. -/
theorem backlog_is_worked_off (loop : ThreadedLoop) (backlog : Nat) (tag : StopTag) (begun : Nat)
    (stands : loop.thread = some .polling)
    (queued : loop.signals = List.replicate backlog .kick ++ [.stop tag]) :
    beats (counted tireless) (loop, (), begun) (List.replicate (2 * backlog + 1) .turn) =
      ({ loop with signals := [] }.exit tag, (), begun + backlog) := by
  induction backlog generalizing loop begun with
  | zero => simp [beats, beat, advance?, stands, queued, obey]
  | succ backlog ih =>
      have turns : List.replicate (2 * (backlog + 1) + 1) Beat.turn =
          .turn :: .turn :: List.replicate (2 * backlog + 1) .turn := rfl
      have stepped : beat (counted tireless) (beat (counted tireless) (loop, (), begun) .turn) .turn
          = ({ loop with
                thread := some .polling, signals := List.replicate backlog .kick ++ [.stop tag] },
              (), begun + 1) := by
        simp [beat, advance?, stands, queued, List.replicate_succ, obey, counted, tireless]
      rw [turns, beats, List.foldl_cons, List.foldl_cons, stepped]
      simpa [beats, exit, Nat.add_assoc, Nat.add_comm 1] using ih _ (begun + 1) rfl rfl

/-- Three kicks are queued when the stop comes, and three steps begin after it. -/
theorem stop_is_not_immediate :
    ¬ ∀ (body : Unit → BodyStep × Unit) (loop : ThreadedLoop) (tag : StopTag) (moves : List Beat),
      loop.isRunning = true → loop.stopping = false →
        (beats (counted body) (loop.requestStop tag, (), 0) moves).2.2 ≤ 1 := by
  intro immediate
  let loop := ({ name := "write" } : ThreadedLoop).spawn.kick.kick.kick
  have begun := immediate tireless loop ⟨32⟩ (List.replicate (2 * 3 + 1) .turn) rfl rfl
  rw [backlog_is_worked_off (loop.requestStop ⟨32⟩) 3 ⟨32⟩ 0 rfl rfl] at begun
  exact absurd begun (by decide)

end ThreadedLoop

end ModemLink
