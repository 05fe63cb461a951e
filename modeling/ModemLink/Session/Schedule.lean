import ModemLink.Session.Loops

/-!
# Running the service loops of a session

Loops run on threads of their own. `Session.runLoops` lets each live loop run until it would wait:
for a transfer, for something to dispatch or send, or for a kick.
-/

namespace ModemLink

/-- Hosts that know how many inbound transfers would end without waiting. -/
class Inbound (η : Type) where
  bulk : η → Nat
  interrupt : η → Nat

namespace Session

variable {η : Type} [Host η]

/-- Up to `n` steps of a live loop, fewer if it falls idle. -/
def runLoop (loop : LoopName) : Nat → Act η Unit
  | 0 => return
  | n + 1 => do
      if !((← get).loops.get loop).live then return
      match ← step loop with
      | .busy => runLoop loop n
      | .idle => return

/-- The inbound loops find out that nothing more is coming by one step more. -/
def runLoops [Inbound η] : Act η Unit := do
  runLoop .interrupt (Inbound.interrupt (← get).host + 1)
  runLoop .read (Inbound.bulk (← get).host + 1)
  runLoop .dispatch (← Act.device).queues.read.length
  runLoop .write (← Act.device).queues.writeLength

end Session

end ModemLink
