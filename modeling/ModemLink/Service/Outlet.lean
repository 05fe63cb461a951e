import ModemLink.Service.Supply

/-!
# The write loop and those who feed it

Frames wait in a queue for each channel until the write loop hands them to the transport. In an
`Outlet` producers queue frames and set the pause flag between any two moves of a step: the step
takes the first control frame, or else looks at the pause flag and then takes the first data frame,
and hands over what it took.
-/

namespace ModemLink

/-- How far a step of the write loop has come, and the endpoint it sends to. -/
inductive WriteStage where
  /-- The next step has not begun. -/
  | between
  /-- There was no control frame. -/
  | pauseFlag (endpoint : UInt8)
  /-- And no pause. -/
  | writeQueue (endpoint : UInt8)
  /-- A frame is off its queue and not handed over yet. -/
  | holding (endpoint : UInt8) (channel : Channel) (frame : Bytes)
  deriving DecidableEq, Repr

structure Outlet (η : Type) where
  session : Session η
  stage : WriteStage := .between
  /-- The frames handed over and the queues they came from. -/
  handed : List (Channel × Bytes) := []

namespace Outlet

inductive Move where
  | push (channel : Channel) (frame : Bytes)
  | setPaused (paused : Bool)
  /-- The step goes on, or the next one begins. -/
  | turn
  deriving DecidableEq, Repr

variable {η : Type}

def onDevice (outlet : Outlet η) (f : Device → Device) : Outlet η :=
  { outlet with session := { outlet.session with device := f outlet.session.device } }

def push (outlet : Outlet η) (channel : Channel) (frame : Bytes) : Outlet η :=
  outlet.onDevice fun d => { d with queues := match channel with
    | .control => d.queues.pushControl frame
    | .data => d.queues.pushWrite frame }

/-- The step keeps a frame that came off a queue; without one it goes on to another stage. -/
def take (outlet : Outlet η) (endpoint : UInt8) (channel : Channel) (otherwise : WriteStage) :
    Option Bytes × Queues → Outlet η
  | (none, _) => { outlet with stage := otherwise }
  | (some frame, queues) =>
      { outlet.onDevice fun d => { d with queues } with stage := .holding endpoint channel frame }

variable [Host η]

def turn (outlet : Outlet η) : Outlet η :=
  let device := outlet.session.device
  match outlet.stage with
  | .between =>
      match outlet.session.loops.write.endpoint with
      | none => outlet
      | some endpoint =>
          outlet.take endpoint .control (.pauseFlag endpoint) device.queues.popControl
  | .pauseFlag endpoint =>
      { outlet with stage := if device.txPaused then .between else .writeQueue endpoint }
  | .writeQueue endpoint => outlet.take endpoint .data .between device.queues.popWrite
  | .holding endpoint channel frame =>
      { session := ((Session.transmit endpoint frame).exec outlet.session).2
        handed := outlet.handed ++ [(channel, frame)] }

def next (outlet : Outlet η) : Move → Outlet η
  | .push channel frame => outlet.push channel frame
  | .setPaused paused => outlet.onDevice fun d => { d with txPaused := paused }
  | .turn => outlet.turn

def run (outlet : Outlet η) (moves : List Move) : Outlet η := moves.foldl next outlet

end Outlet

end ModemLink
