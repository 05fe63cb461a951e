/-!
# Mailboxes

A bounded queue between two threads. Once either side is gone it is closed: nothing more can be
sent, but what it holds can still be received.
-/

namespace ModemLink

structure Mailbox (α : Type) where
  /-- `none` for no bound. -/
  capacity : Option Nat := none
  /-- The oldest item first. -/
  items : List α := []
  closed : Bool := false
  deriving DecidableEq, Repr

inductive SendError where
  | full
  | closed
  deriving DecidableEq, Repr

namespace SendError

def message : SendError → String
  | full => "sending into a full channel"
  | closed => "sending into a closed channel"

end SendError

inductive Received (α : Type) where
  | item (item : α)
  | empty
  /-- Empty, with no one left to send. -/
  | closed
  deriving DecidableEq, Repr

def closedMessage : String := "receiving from an empty and closed channel"

namespace Mailbox

variable {α : Type}

def isFull (mailbox : Mailbox α) : Bool :=
  mailbox.capacity.elim false fun capacity => decide (capacity ≤ mailbox.items.length)

def send (mailbox : Mailbox α) (item : α) : Except SendError (Mailbox α) :=
  if mailbox.closed then .error .closed
  else if mailbox.isFull then .error .full
  else .ok { mailbox with items := mailbox.items ++ [item] }

def offer (mailbox : Mailbox α) (item : α) : Mailbox α := (mailbox.send item).toOption.getD mailbox

def receive (mailbox : Mailbox α) : Received α × Mailbox α :=
  match mailbox.items with
  | item :: items => (.item item, { mailbox with items })
  | [] => (if mailbox.closed then .closed else .empty, mailbox)

def close (mailbox : Mailbox α) : Mailbox α := { mailbox with closed := true }

end Mailbox

end ModemLink
