import ModemLink.Session.Enumeration

/-!
# Pipe resets and line state
-/

namespace ModemLink.Session

variable {η : Type} [Host η]

/-- Resets the pipe of a role and records its status; a missing pipe needs no reset. -/
def resetRole (role : PipeRole) : Act η Unit := do
  match (← Act.device).endpoint? role with
  | none => return
  | some endpoint =>
      let result ← Act.resetPipe endpoint
      Act.recordPipe role.tracked result
      orTransport result

/-- Interrupt, input and output in this order, up to the first failure. -/
def resetTriple : Act η Unit := do
  resetRole .interrupt
  resetRole .bulkIn
  resetRole .bulkOut

/-- Repeats the whole triple up to `retries` times. -/
def resetWithRetry : Nat → Act η Unit
  | 0 => resetTriple
  | retries + 1 => tryCatch resetTriple fun _ => resetWithRetry retries

def resetAttempts : Nat := 10

def resetPipes : Act η Unit := resetWithRetry (resetAttempts - 1)

/-- Sets the line state of the control interface; a failure is recorded and goes no further. -/
def setLineState (dtr rts : Bool) : Act η Unit := do
  match (← Act.device).configuration with
  | none => return
  | some config => discard (Act.controlOut (.lineState config.controlInterface dtr rts))

end ModemLink.Session
