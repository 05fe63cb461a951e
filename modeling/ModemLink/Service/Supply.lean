import Mathlib.Logic.Function.Basic
import ModemLink.Service

/-!
# Loops and their producers

The dispatch and the write loop work off queues, and wait for a kick when there is nothing to do.
Producers change the queues or the pause flag and kick the loop after that. In a `SupplyLine` they
take turns with the thread of the loop and with its owner, each as finely as it can be interrupted:
the thread looks at one queue or flag at a time, and a start throws old signals away one by one.
-/

namespace ModemLink

inductive Consumer where
  | dispatch
  | write
  deriving DecidableEq, Repr

def Consumer.name : Consumer → LoopName
  | dispatch => .dispatch
  | write => .write

/-- A step of the loop could make progress. -/
def Consumer.hasWork (d : Device) : Consumer → Bool
  | dispatch => !d.queues.read.isEmpty
  | write => !d.queues.control.isEmpty || (!d.txPaused && !d.queues.write.isEmpty)

/-- A change that is followed by a kick. -/
inductive Supply where
  | read (buffer : Bytes)
  | write (frame : Bytes)
  | control (frame : Bytes)
  | resume
  deriving DecidableEq, Repr

def Supply.apply (d : Device) : Supply → Device
  | read buffer => { d with queues := d.queues.pushRead buffer }
  | write frame => { d with queues := d.queues.pushWrite frame }
  | control frame => { d with queues := d.queues.pushControl frame }
  | resume => { d with txPaused := false }

/-- A change that gives nobody work. -/
inductive Withdrawal where
  | pause
  | purge
  deriving DecidableEq, Repr

def Withdrawal.apply (d : Device) : Withdrawal → Device
  | pause => { d with txPaused := true }
  | purge => { d with queues := d.queues.purge }

/-- How far a step has come. -/
inductive Glance where
  | first
  | pauseFlag
  | writeQueue
  deriving DecidableEq, Repr

namespace Session

variable {η : Type} [Host η]

/-- Sends what came off a queue, if anything did. -/
def sendPopped (endpoint : UInt8) (otherwise : Glance ⊕ LoopStep) :
    Option Bytes × Queues → Act η (Glance ⊕ LoopStep)
  | (none, _) => return otherwise
  | (some frame, queues) => do
      Act.onQueues fun _ => queues
      transmit endpoint frame
      return .inr .busy

/-- One look of a step: it either goes on to the next one or ends the step. -/
def look (consumer : Consumer) (glance : Glance) : Act η (Glance ⊕ LoopStep) :=
  match consumer with
  | .dispatch => do return .inr (← dispatchStep)
  | .write => do
      match (← get).loops.write.endpoint with
      | none => return .inr .idle
      | some endpoint =>
          let device ← Act.device
          match glance with
          | .first => sendPopped endpoint (.inl .pauseFlag) device.queues.popControl
          | .pauseFlag => return if device.txPaused then .inr .idle else .inl .writeQueue
          | .writeQueue => sendPopped endpoint (.inr .idle) device.queues.popWrite

end Session

/-- A step of the loop that nothing comes in between of. -/
def Consumer.body {η : Type} [Host η] (consumer : Consumer) (session : Session η) :
    BodyStep × Session η :=
  match (Session.step consumer.name).exec session with
  | (.ok step, after) => (.done step, after)
  | (.error _, after) => (.panicked, after)

/-- How far the owner has come with a start. -/
inductive Launch where
  | none
  | draining
  | drained
  deriving DecidableEq, Repr

structure SupplyLine (ι η : Type) where
  consumer : Consumer
  loop : ThreadedLoop
  session : Session η
  glance : Glance := .first
  launch : Launch := .none
  /-- The producer has made its change and not kicked yet. -/
  owes : ι → Bool := fun _ => false

namespace SupplyLine

variable {ι η : Type}

inductive Move (ι : Type) where
  | supply (producer : ι) (supply : Supply)
  | kick (producer : ι)
  | withdraw (withdrawal : Withdrawal)
  /-- The owner goes on with a start. -/
  | start
  /-- The thread goes on. -/
  | turn
  deriving DecidableEq, Repr

def hasWork (line : SupplyLine ι η) : Bool := line.consumer.hasWork line.session.device

def onDevice (line : SupplyLine ι η) (f : Device → Device) : SupplyLine ι η :=
  { line with session := { line.session with device := f line.session.device } }

/-- A start leaves a loop that has a thread alone. -/
def start (line : SupplyLine ι η) : SupplyLine ι η :=
  match line.launch, line.loop.thread with
  | .none, some _ => line
  | .none, none => { line with launch := .draining }
  | .draining, _ =>
      match line.loop.signals with
      | _ :: signals => { line with loop := { line.loop with signals } }
      | [] => { line with launch := .drained }
  | .drained, _ =>
      { line with
        launch := .none
        loop := { line.loop with thread := some .polling, built := line.loop.built + 1 } }

/-- The thread makes a move of its loop, its body being over with an outcome. -/
def advance (line : SupplyLine ι η) (outcome : BodyStep) : SupplyLine ι η :=
  match line.loop.advance? (fun _ => (outcome, ())) () with
  | some (loop, ()) => { line with loop, glance := .first }
  | none => line

variable [Host η]

def turn (line : SupplyLine ι η) : SupplyLine ι η :=
  if line.loop.thread = some .ready then
    match (Session.look line.consumer line.glance).exec line.session with
    | (.ok (.inl glance), session) => { line with session, glance }
    | (.ok (.inr step), session) => { line with session }.advance (.done step)
    | (.error _, session) => { line with session }.advance .panicked
  else line.advance (.done .busy)

variable [DecidableEq ι]

def next (line : SupplyLine ι η) : Move ι → SupplyLine ι η
  | .supply producer supply =>
      { line.onDevice supply.apply with owes := Function.update line.owes producer true }
  | .kick producer =>
      { line with loop := line.loop.kick, owes := Function.update line.owes producer false }
  | .withdraw withdrawal => line.onDevice withdrawal.apply
  | .start => line.start
  | .turn => line.turn

def run (line : SupplyLine ι η) (moves : List (Move ι)) : SupplyLine ι η :=
  moves.foldl next line

end SupplyLine

end ModemLink
