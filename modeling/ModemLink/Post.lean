import ModemLink.Command
import ModemLink.Registry

/-!
# The post of a session

The worker holds at most one session. While it does, the adapter of the session is registered under
its key; letting the session go, for whatever reason, drops the registration.
-/

namespace ModemLink

structure Post (η : Type) where
  session : Option (Session η) := none
  /-- The device record is that of the session, so the entries carry nothing. -/
  registry : Registry Unit := {}

namespace Post

variable {η : Type} [Host η]

/-- Takes in a session, unless its key is held by another registration. -/
def occupy (post : Post η) (session : Session η) : Except DriverError (Post η) :=
  match post.registry.register session.key () with
  | .ok registry => .ok { session := some session, registry }
  | .error e => .error e

def release (post : Post η) : Post η where
  registry := post.session.elim post.registry fun session => post.registry.drop session.key

/-- Gives the device up for lost; what is left of its session comes first. -/
def detach (post : Post η) : Option (Session η) × Post η :=
  (post.session.map fun session => (Session.surpriseRemove.exec session).2, post.release)

/-- What handling a command leads to. -/
structure Handling (η : Type) where
  reply : Option Reply
  /-- What is left of the session that the command has cost. -/
  lost : Option (Session η)
  post : Post η

/-- Runs a command; a fatal failure costs the session. -/
def handle (post : Post η) (command : Command) : Handling η :=
  let outcome := command.execute post.session
  let after : Post η := { post with session := outcome.session }
  let (lost, post) := if outcome.fatal then after.detach else (none, after)
  { reply := outcome.reply, lost, post }

end Post

end ModemLink
