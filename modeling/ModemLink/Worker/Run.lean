import ModemLink.Worker

/-!
# Runs of the worker

Devices come and go and commands arrive while the worker goes round. Its loops, the plug events of
the bus and the polls of its session take their turns in any order.
-/

namespace ModemLink.Worker

inductive Move where
  | plug (device : BusDevice)
  | unplug (n : Nat)
  /-- One event of the bus is handled. -/
  | event
  | loops
  | poll
  | command (command : Command)

def next (worker : Worker) : Move → Worker
  | .plug device => worker.setBus (worker.bus.plug device)
  | .unplug n => worker.setBus (worker.bus.unplug n)
  | .event => worker.handleEvents
  | .loops => worker.runLoops
  | .poll => worker.poll
  | .command command => (worker.execute command).2

def through (worker : Worker) (moves : List Move) : Worker := moves.foldl next worker

/-- Every move of the run passes the test in the worker that it finds. -/
def along (test : Worker → Move → Bool) : Worker → List Move → Bool
  | _, [] => true
  | worker, move :: moves => test worker move && (worker.next move).along test moves

/-- The event of the bus that is handled next. -/
def nextEvent? (worker : Worker) : Option PlugEvent :=
  match (Bus.handleEvents.run.run worker.bus).1 with
  | .ok event => event
  | .error _ => none

end ModemLink.Worker
