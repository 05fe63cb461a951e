import ModemLink.Session.Operations

/-!
# Commands

What a client asks of the driver, and the one answer each command gets. Without a session every
command but a status query is refused.
-/

namespace ModemLink

inductive Command where
  | «open»
  | close
  | send (payload : Bytes) (channel : Channel)
  | setSystemPower (level : SystemPower)
  | setDevicePower (level : DevicePower)
  | queryStatus
  | shutdown
  deriving DecidableEq, Repr

inductive Reply where
  | outcome (result : Except ClientError Unit)
  | status (report : StatusReport)
  deriving Repr

namespace Command

variable {η : Type} [Host η]

/-- The command as a session event, for a refusal. -/
def event : Command → String
  | «open» => "open"
  | close => "close"
  | send .. => "send"
  | setSystemPower _ => "set-system-power"
  | setDevicePower _ => "set-device-power"
  | queryStatus => "query-status"
  | shutdown => "shutdown"

def act : Command → Act η Unit
  | «open» => Session.open
  | close => Session.close
  | send payload channel => Session.send channel payload
  | setSystemPower level => Session.handlePower (.setSystem level)
  | setDevicePower level => Session.handlePower (.setDevice level)
  | queryStatus | shutdown => pure ()

structure Outcome (η : Type) where
  /-- The one message to the sender; a shutdown is answered by the end of the driver. -/
  reply : Option Reply
  /-- The session must be torn down. -/
  fatal : Bool := false
  session : Option (Session η)

def perform (command : Command) (session : Option (Session η)) : Outcome η :=
  match session with
  | none =>
      let e : DriverError := .invalidState Lifecycle.absent.name command.event
      { reply := some (.outcome (.error (.ofDriver e))), fatal := e.isFatal, session := none }
  | some s =>
      let (result, s) := command.act.exec s
      match result with
      | .ok () => { reply := some (.outcome (.ok ())), session := some s }
      | .error e =>
          { reply := some (.outcome (.error (.ofDriver e))), fatal := e.isFatal, session := some s }

def execute (command : Command) (session : Option (Session η)) : Outcome η :=
  match command with
  | queryStatus =>
      { reply := some (.status (session.elim {} Session.status)), session }
  | shutdown => { reply := none, session }
  | command => command.perform session

end Command

end ModemLink
