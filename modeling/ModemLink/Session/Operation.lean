import ModemLink.Session.Operations

/-!
# Runs of operations

What a host, a client and the clock ask of a session, in any order. An operation that fails leaves
the changes made before it failed, and the run goes on from there.
-/

namespace ModemLink

inductive Operation where
  | start
  | «open»
  | close
  | stop
  | surpriseRemove
  | shutdown
  | send (channel : Channel) (payload : Bytes)
  /-- The idle timer is looked at, in milliseconds. -/
  | pollIdle (now : Nat)
  | power (request : PowerRequest)
  deriving DecidableEq, Repr

variable {η : Type} [Host η]

def Operation.perform : Operation → Act η Unit
  | start => Session.start
  | «open» => Session.open
  | close => Session.close
  | stop => Session.stop
  | surpriseRemove => Session.surpriseRemove
  | shutdown => Session.shutdown
  | send channel payload => Session.send channel payload
  | pollIdle now => discard (Session.pollIdle now)
  | power request => Session.handlePower request

namespace Session

def after (session : Session η) (operation : Operation) : Session η :=
  (operation.perform.exec session).2

def run (session : Session η) (operations : List Operation) : Session η :=
  operations.foldl after session

end Session

end ModemLink
