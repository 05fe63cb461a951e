import ModemLink.Mailbox
import ModemLink.Session.Loops

/-!
# Service loops as threads

A service loop runs a body on a thread of its own. Signals wake the thread or stop it; on exit it
acknowledges the tag that stopped it. The owner and the thread take turns in any order:
`ThreadedLoop.advance?` is one move of the thread, the other operations are the owner's, and those
that would have to wait answer `none`.
-/

namespace ModemLink

inductive Signal where
  | kick
  | stop (tag : StopTag)
  deriving DecidableEq, Repr

inductive BodyStep where
  | done (step : LoopStep)
  | panicked
  deriving DecidableEq, Repr

inductive ThreadState where
  /-- About to look for a signal. -/
  | polling
  /-- About to run its body. -/
  | ready
  /-- Idle until a signal comes. -/
  | waiting
  | exited
  | panicked
  deriving DecidableEq, Repr

def ThreadState.isFinished : ThreadState → Bool
  | exited | panicked => true
  | _ => false

structure ThreadedLoop where
  name : String
  /-- The oldest signal first. -/
  signals : List Signal := []
  /-- Acknowledgements that the owner has not collected. -/
  acknowledged : List StopTag := []
  /-- The thread, until it is joined. -/
  thread : Option ThreadState := none
  /-- The owner has asked for a stop. -/
  stopping : Bool := false
  closedTag : Option StopTag := none
  /-- Bodies built so far, one for each start. -/
  built : Nat := 0
  deriving DecidableEq, Repr

namespace ThreadedLoop

def send (loop : ThreadedLoop) (signal : Signal) : ThreadedLoop :=
  { loop with signals := loop.signals ++ [signal] }

def kick (loop : ThreadedLoop) : ThreadedLoop := loop.send .kick

def isRunning (loop : ThreadedLoop) : Bool := loop.thread.any fun thread => !thread.isFinished

/-! ## The thread -/

def exit (loop : ThreadedLoop) (tag : StopTag) : ThreadedLoop :=
  { loop with thread := some .exited, acknowledged := loop.acknowledged ++ [tag] }

/-- The thread takes a signal, which brings it to `next` unless it is a stop. -/
def obey (loop : ThreadedLoop) (next : ThreadState) : Signal → ThreadedLoop
  | .kick => { loop with thread := some next }
  | .stop tag => loop.exit tag

/-- The next move of the thread, where the body acts on a state of its own; `none` when there is no
thread that can move. -/
def advance? {σ : Type} (body : σ → BodyStep × σ) (loop : ThreadedLoop) (state : σ) :
    Option (ThreadedLoop × σ) :=
  match loop.thread, loop.signals with
  | some .polling, signal :: signals => some ({ loop with signals }.obey .ready signal, state)
  | some .polling, [] => some ({ loop with thread := some .ready }, state)
  | some .ready, _ =>
      let (step, state) := body state
      let thread := match step with
        | .done .busy => ThreadState.polling
        | .done .idle => .waiting
        | .panicked => .panicked
      some ({ loop with thread := some thread }, state)
  | some .waiting, signal :: signals => some ({ loop with signals }.obey .polling signal, state)
  | some .waiting, [] | some .exited, _ | some .panicked, _ | none, _ => none

def run {σ : Type} (body : σ → BodyStep × σ) : Nat → ThreadedLoop → σ → ThreadedLoop × σ
  | 0, loop, state => (loop, state)
  | n + 1, loop, state =>
      match loop.advance? body state with
      | some (loop, state) => run body n loop state
      | none => (loop, state)

/-! ## The owner -/

/-- Joins a finished thread and collects its acknowledgement. -/
def reap (loop : ThreadedLoop) : Except DriverError Unit × ThreadedLoop :=
  if loop.thread = some .panicked then
    (.error (.service loop.name "thread panicked"), { loop with thread := none })
  else
    (.ok (), { loop with thread := none, acknowledged := [], stopping := false
                         closedTag := loop.acknowledged.getLast?.or loop.closedTag })

/-- A thread with a fresh body; signals sent before are lost. -/
def spawn (loop : ThreadedLoop) : ThreadedLoop :=
  { loop with signals := [], thread := some .polling, built := loop.built + 1 }

/-- Starts the loop, unless it is running. A thread that was asked to stop is joined first. -/
def start? (loop : ThreadedLoop) : Option (Except DriverError Unit × ThreadedLoop) :=
  match loop.thread with
  | none => some (.ok (), loop.spawn)
  | some thread =>
      if !loop.stopping then some (.ok (), loop)
      else if !thread.isFinished then none
      else
        match loop.reap with
        | (.ok (), loop) => some (.ok (), loop.spawn)
        | (.error e, loop) => some (.error e, loop)

/-- Asks the thread to stop, once. -/
def requestStop (loop : ThreadedLoop) (tag : StopTag) : ThreadedLoop :=
  if loop.thread.isNone || loop.stopping then loop
  else { loop.send (.stop tag) with stopping := true }

/-- Waits for the acknowledgement of a stop that was asked for, and for the end of the thread. -/
def awaitStop? (loop : ThreadedLoop) : Option (Except DriverError Unit × ThreadedLoop) :=
  match loop.thread, loop.acknowledged with
  | none, _ => some (.ok (), loop)
  | some _, [] => none
  | some thread, tag :: acknowledged =>
      if thread.isFinished then
        some { loop with acknowledged, closedTag := some tag }.reap
      else none

end ThreadedLoop

/-- A body that ends its steps as a list says, and is idle after that; `steps` counts them. -/
structure BodyScript where
  script : List BodyStep := []
  steps : Nat := 0
  deriving DecidableEq, Repr

def BodyScript.step (body : BodyScript) : BodyStep × BodyScript :=
  (body.script.headD (.done .idle), { script := body.script.tail, steps := body.steps + 1 })

/-- Lets the thread of a loop go on until it has to wait. -/
def ThreadedLoop.settle (loop : ThreadedLoop) (body : BodyScript) : ThreadedLoop × BodyScript :=
  loop.run BodyScript.step (3 * (body.script.length + loop.signals.length + 2)) body

end ModemLink
