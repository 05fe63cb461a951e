import ModemLink.Session.Loops
import ModemLink.Session.Operation

/-!
# Runs with the loops at work

Between two operations the service loops go on. `Session.through` runs operations and steps of the
loops in any order, and an operation may find any transfers of the loops under way.
-/

namespace ModemLink

inductive Happening where
  | operation (operation : Operation)
  /-- One step of a loop, which need not be live: one that was asked to stop may be in its last. -/
  | loop (name : LoopName)
  /-- Transfers begin or end: the mask of those under way. -/
  | transfers (busy : UInt32)
  deriving DecidableEq, Repr

/-- It is no operation that passes the test. -/
def Happening.evades (test : Operation → Bool) : Happening → Bool
  | .operation performed => !test performed
  | .loop _ | .transfers _ => true

namespace Session

variable {η : Type} [Host η]

def next (session : Session η) : Happening → Session η
  | .operation operation => session.after operation
  | .loop name => ((step name).exec session).2
  | .transfers busy => { session with device := { session.device with ioBusy := busy } }

def through (session : Session η) (happenings : List Happening) : Session η :=
  happenings.foldl next session

/-- A run of operations is one in which the loops take no step. -/
theorem through_operations (session : Session η) (operations : List Operation) :
    session.through (operations.map .operation) = session.run operations :=
  List.foldl_map

/-- Every happening of the run passes the test in the session that it finds. -/
def along (test : Session η → Happening → Bool) : Session η → List Happening → Bool
  | _, [] => true
  | session, happening :: happenings =>
      test session happening && (session.next happening).along test happenings

end Session

end ModemLink
