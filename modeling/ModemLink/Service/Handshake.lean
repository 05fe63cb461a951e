import ModemLink.Service

/-!
# The owner of a loop and its threads

The owner starts and stops a loop while its threads run and others kick it. In a `Handshake` they
take turns as finely as they can be interrupted: an owner that joins a thread waits for its end, and
collects acknowledgements and throws old signals away one by one; a thread that was told to stop
acknowledges that first and ends after it. All threads there ever were share the two channels.
-/

namespace ModemLink

/-- Where a thread is. -/
inductive ThreadStage where
  /-- About to look for a signal. -/
  | polling
  /-- About to run its body. -/
  | ready
  /-- Idle until a signal comes. -/
  | waiting
  /-- Took a stop and has not acknowledged it. -/
  | closing (tag : StopTag)
  /-- Acknowledged a stop and has not ended. -/
  | leaving
  | exited
  deriving DecidableEq, Repr

/-- A thread and the stops that the owner asked for while it had it, the oldest first. -/
structure Spawned where
  stage : ThreadStage := .polling
  asked : List StopTag := []
  deriving DecidableEq, Repr

inductive OwnerCall where
  | start
  | requestStop (tag : StopTag) (wait : Bool)
  deriving DecidableEq, Repr

/-- What the owner is at. -/
inductive Duty where
  /-- Nothing so far. -/
  | idle
  | returned (call : OwnerCall) (ok : Bool)
  /-- Waits for an acknowledgement. -/
  | awaiting (tag : StopTag)
  /-- Waits for the end of its thread. -/
  | joining (call : OwnerCall)
  /-- Collects acknowledgements. -/
  | collecting (call : OwnerCall)
  /-- Throws old signals away. -/
  | draining
  /-- About to spawn a thread. -/
  | launching
  deriving DecidableEq, Repr

/-- What comes after the thread is joined. -/
def OwnerCall.afterJoin (call : OwnerCall) : Duty :=
  match call with
  | start => .draining
  | requestStop .. => .returned call true

def Duty.isDone : Duty → Bool
  | idle | returned .. => true
  | _ => false

structure Handshake where
  name : String
  /-- The oldest signal first. -/
  signals : List Signal := []
  acknowledged : List StopTag := []
  /-- The thread that the owner can join. -/
  current : Option Spawned := none
  /-- The threads that it cannot join any more, the youngest first. -/
  former : List Spawned := []
  stopping : Bool := false
  closedTag : Option StopTag := none
  duty : Duty := .idle
  deriving DecidableEq, Repr

namespace Handshake

/-! ## Threads -/

/-- A thread takes a signal, which brings it to `next` unless it is a stop. -/
def heed (next : ThreadStage) : Signal → ThreadStage
  | .kick => next
  | .stop tag => .closing tag

/-- The next move of a thread, whose step ends as `step` says if it is at that. -/
def move (h : Handshake) (stage : ThreadStage) (step : LoopStep) : ThreadStage × Handshake :=
  match stage, h.signals with
  | .polling, signal :: signals => (heed .ready signal, { h with signals })
  | .polling, [] => (.ready, h)
  | .ready, _ => (match step with | .busy => .polling | .idle => .waiting, h)
  | .waiting, signal :: signals => (heed .polling signal, { h with signals })
  | .waiting, [] => (.waiting, h)
  | .closing tag, _ => (.leaving, { h with acknowledged := h.acknowledged ++ [tag] })
  | .leaving, _ | .exited, _ => (.exited, h)

def turn (h : Handshake) (step : LoopStep) : Handshake :=
  match h.current with
  | none => h
  | some thread =>
      let (stage, h) := h.move thread.stage step
      { h with current := some { thread with stage } }

/-- A thread that the owner has lost makes a move. -/
def stray (h : Handshake) (index : Nat) (step : LoopStep) : Handshake :=
  match h.former[index]? with
  | none => h
  | some thread =>
      let (stage, h) := h.move thread.stage step
      { h with former := h.former.set index { thread with stage } }

/-! ## The owner -/

/-- The owner asks the thread to stop, once. -/
def ask (h : Handshake) (thread : Spawned) (tag : StopTag) : Handshake :=
  { h with
    signals := if h.stopping then h.signals else h.signals ++ [.stop tag]
    current := some { thread with asked := thread.asked ++ [tag] }
    stopping := true }

def call (h : Handshake) (call : OwnerCall) : Handshake :=
  if h.duty.isDone then
    match call, h.current with
    | .start, none => { h with duty := .draining }
    | .start, some _ =>
        { h with duty := if h.stopping then .joining .start else .returned .start true }
    | .requestStop .., none => { h with duty := .returned call true }
    | .requestStop tag wait, some thread =>
        { h.ask thread tag with duty := if wait then .awaiting tag else .returned call true }
  else h

/-- The owner goes on with its call, unless it has to wait. -/
def proceed (h : Handshake) : Handshake :=
  match h.duty with
  | .idle | .returned .. => h
  | .awaiting tag =>
      match h.acknowledged with
      | [] => h
      | first :: acknowledged =>
          { h with acknowledged, closedTag := some first, duty := .joining (.requestStop tag true) }
  | .joining call =>
      match h.current with
      | none => { h with duty := .collecting call }
      | some thread =>
          if thread.stage = .exited then
            { h with current := none, former := thread :: h.former, duty := .collecting call }
          else h
  | .collecting call =>
      match h.acknowledged with
      | first :: acknowledged => { h with acknowledged, closedTag := some first }
      | [] => { h with stopping := false, duty := call.afterJoin }
  | .draining =>
      match h.signals with
      | _ :: signals => { h with signals }
      | [] => { h with duty := .launching }
  | .launching =>
      { h with
        current := some {}
        former := h.current.toList ++ h.former
        duty := .returned .start true }

/-- There is no thread to be had. -/
def refuse (h : Handshake) : Handshake :=
  if h.duty = .launching then { h with duty := .returned .start false } else h

inductive Move where
  | call (call : OwnerCall)
  | proceed
  | refuse
  /-- The owner or somebody else kicks the loop. -/
  | kick
  | turn (step : LoopStep)
  | stray (index : Nat) (step : LoopStep)
  deriving DecidableEq, Repr

def next (h : Handshake) : Move → Handshake
  | .call call => h.call call
  | .proceed => h.proceed
  | .refuse => h.refuse
  | .kick => { h with signals := h.signals ++ [.kick] }
  | .turn step => h.turn step
  | .stray index step => h.stray index step

def run (h : Handshake) (moves : List Move) : Handshake := moves.foldl next h

end Handshake

end ModemLink
