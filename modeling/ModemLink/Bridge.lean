import ModemLink.Command
import ModemLink.Mailbox

/-!
# The bridge between a client and the driver

Commands go one way and events the other, each through a bounded mailbox. The driver never waits for
its client: an event that does not fit is lost.
-/

namespace ModemLink

inductive DriverEvent where
  | deviceStarted (vendorId productId : UInt16) (model : Model)
  | deviceRemoved
  | linkDown
  | deregistered
  | flowControl (command : FlowCommand)
  | powerStateChanged (level : DevicePower)
  | received (payload : Bytes)
  deriving DecidableEq, Repr

/-- A notification as the client hears of it. -/
def Notification.toEvent : Notification → DriverEvent
  | .linkDown => .linkDown
  | .deregistration => .deregistered
  | .flowControl command => .flowControl command
  | .powerStateChanged level => .powerStateChanged level
  | .received payload => .received payload
  | .deviceStarted identity => .deviceStarted identity.vendorId identity.productId identity.model
  | .deviceRemoved => .deviceRemoved

def Event.notification? : Event → Option Notification
  | .notify notification => some notification
  | _ => none

def bridgeCapacity : Nat := 256

/-- The two mailboxes, each closed once one of its sides is gone. -/
structure Bridge where
  commands : Mailbox Command := { capacity := some bridgeCapacity }
  events : Mailbox DriverEvent := { capacity := some bridgeCapacity }

namespace Bridge

def sendCommand (bridge : Bridge) (command : Command) : Except ClientError Unit × Bridge :=
  match bridge.commands.send command with
  | .ok commands => (.ok (), { bridge with commands })
  | .error e => (.error (.channel e.message), bridge)

/-- The next event; `none` when there is none yet. -/
def receiveEvent (bridge : Bridge) : Option (Except ClientError DriverEvent) × Bridge :=
  match bridge.events.receive with
  | (.item event, events) => (some (.ok event), { bridge with events })
  | (.empty, _) => (none, bridge)
  | (.closed, _) => (some (.error (.channel closedMessage)), bridge)

def receiveCommand (bridge : Bridge) : Option (Except ClientError Command) × Bridge :=
  match bridge.commands.receive with
  | (.item command, commands) => (some (.ok command), { bridge with commands })
  | (.empty, _) => (none, bridge)
  | (.closed, _) => (some (.error (.channel closedMessage)), bridge)

def sendEvent (bridge : Bridge) (event : DriverEvent) : Except ClientError Unit × Bridge :=
  match bridge.events.send event with
  | .ok events => (.ok (), { bridge with events })
  | .error _ => (.error (.channel "event receiver closed"), bridge)

/-- Sends an event, or drops it. -/
def offerEvent (bridge : Bridge) (event : DriverEvent) : Bridge :=
  { bridge with events := bridge.events.offer event }

def close (bridge : Bridge) : Bridge :=
  { commands := bridge.commands.close, events := bridge.events.close }

end Bridge

end ModemLink
