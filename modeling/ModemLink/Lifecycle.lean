import ModemLink.Error

/-!
# Device lifecycle

Presence and removal are states of one type, so a removed device is never also present. `next` is
the transition table.
-/

namespace ModemLink

inductive Lifecycle where
  | absent
  | present
  /-- `inService` when a client is attached. -/
  | started (inService : Bool)
  | surpriseRemoved
  | removed
  deriving DecidableEq, Repr

inductive LifecycleEvent where
  | arrive
  | start
  | stop
  | opened
  | closed
  | surpriseRemove
  | remove
  deriving DecidableEq, Repr

def LifecycleEvent.name : LifecycleEvent → String
  | arrive => "arrive"
  | start => "start"
  | stop => "stop"
  | opened => "open"
  | closed => "close"
  | surpriseRemove => "surprise-remove"
  | remove => "remove"

namespace Lifecycle

def name : Lifecycle → String
  | absent => "absent"
  | present => "present"
  | started false => "started"
  | started true => "in-service"
  | surpriseRemoved => "surprise-removed"
  | removed => "removed"

def next (state : Lifecycle) (event : LifecycleEvent) : Except DriverError Lifecycle :=
  match state, event with
  | absent, .arrive => .ok present
  | present, .start => .ok (started false)
  | started false, .opened => .ok (started true)
  | started true, .opened => .error .deviceBusy
  | started _, .closed => .ok (started false)
  | present, .stop | started _, .stop => .ok present
  | present, .surpriseRemove | started _, .surpriseRemove
  | surpriseRemoved, .surpriseRemove => .ok surpriseRemoved
  | _, .remove => .ok removed
  | state, event => .error (.invalidState state.name event.name)

def isPresent : Lifecycle → Bool
  | present | started _ => true
  | _ => false

def isStarted : Lifecycle → Bool
  | started _ => true
  | _ => false

/-- A client is attached. -/
def inService : Lifecycle → Bool
  | started true => true
  | _ => false

def isRemoved : Lifecycle → Bool
  | surpriseRemoved | removed => true
  | _ => false

end Lifecycle

end ModemLink
