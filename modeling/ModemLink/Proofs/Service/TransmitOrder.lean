import Mathlib.Data.List.Induction
import ModemLink.Proofs.Service.Wakeup
import ModemLink.Service.Outlet

/-!
# The order of what is sent

Each queue of the write loop is first in, first out, and a frame leaves it only to be handed over.
A data frame is handed over by a step that found no control frame and, after that, no pause.
-/

namespace ModemLink

open Act

def Event.frame? : Event → Option Bytes
  | .bulkOut _ frame _ _ => some frame
  | _ => none

namespace Session

variable {η : Type} [Host η]

/-- The frames that the transport was given, whether or not it sent them. -/
def frames (session : Session η) : List Bytes := session.trace.toList.filterMap Event.frame?

theorem transmit_leaves (session : Session η) (endpoint : UInt8) (frame : Bytes) :
    let after := ((transmit endpoint frame).exec session).2
    after.device.queues = session.device.queues ∧ after.frames = session.frames ++ [frame] := by
  cases outcome : (Host.bulkOut endpoint frame writeTimeout session.host).1 <;>
    simp [transmit, exec_bind, Act.bulkOut, recordPipe, onStats, outcome, frames, Event.frame?,
      Device.setBusy, Device.clearBusy]

theorem transmit_status (session : Session η) (endpoint : UInt8) (frame : Bytes) :
    let after := ((transmit endpoint frame).exec session).2
    let result := (Host.bulkOut endpoint frame writeTimeout session.host).1
    after.device.txPaused = session.device.txPaused ∧
      after.device.pipes.output = (match result with
        | .ok _ => none
        | .error e => some e) := by
  cases outcome : (Host.bulkOut endpoint frame writeTimeout session.host).1 <;>
    simp [transmit, exec_bind, Act.bulkOut, recordPipe, onStats, outcome, PipeStatus.set,
      Device.setBusy, Device.clearBusy]

/-- Whatever count the transport reports, the frame counts as sent: the pipe has no error, and what
the transport is given next is the next frame, not the rest of this one. -/
theorem writeStep_of_count {session : Session η} {endpoint : UInt8} {frame next : Bytes}
    {queues queues' : Queues} {count : Nat}
    (serves : session.loops.write.endpoint = some endpoint)
    (popped : session.device.queues.popFrame session.device.txPaused = (some frame, queues))
    (popped' : queues.popFrame session.device.txPaused = (some next, queues'))
    (reported : (Host.bulkOut endpoint frame writeTimeout session.host).1 = .ok count) :
    let once := (writeStep.exec session).2
    let twice := (writeStep.exec once).2
    once.device.pipes.output = none ∧ twice.frames = session.frames ++ [frame, next] := by
  intro once twice
  let popping := { session with device.queues := queues }
  obtain ⟨left, given⟩ := popping.transmit_leaves endpoint frame
  obtain ⟨unpaused, status⟩ := popping.transmit_status endpoint frame
  have sent : once = ((transmit endpoint frame).exec popping).2 :=
    congrArg Prod.snd (exec_writeStep_some serves popped)
  rw [← sent] at left given unpaused status
  refine ⟨by rw [status, show (Host.bulkOut endpoint frame writeTimeout popping.host).1 = _ from
    reported], ?_⟩
  have served : once.loops.write.endpoint = some endpoint := by
    rw [show once.loops = session.loops from sent ▸ session.sent_loops queues endpoint frame]
    exact serves
  have popped'' : once.device.queues.popFrame once.device.txPaused = (some next, queues') := by
    rw [left, unpaused]
    exact popped'
  have again := congrArg Prod.snd (exec_writeStep_some served popped'')
  obtain ⟨-, given'⟩ :=
    ({ once with device.queues := queues' } : Session η).transmit_leaves endpoint next
  rw [show twice = _ from again]
  refine given'.trans ?_
  have handed : ({ once with device.queues := queues' } : Session η).frames =
      session.frames ++ [frame] := given
  rw [handed]
  simp

end Session

namespace Outlet

variable {η : Type} {outlet : Outlet η}

/-! ## The frames of a channel -/

def queue (outlet : Outlet η) : Channel → List Bytes
  | .control => outlet.session.device.queues.control
  | .data => outlet.session.device.queues.write

def held (outlet : Outlet η) (channel : Channel) : List Bytes :=
  match outlet.stage with
  | .holding _ source frame => if source = channel then [frame] else []
  | _ => []

/-- The frames of a channel that have been handed over. -/
def gone (outlet : Outlet η) (channel : Channel) : List Bytes :=
  outlet.handed.filterMap fun (source, frame) => if source = channel then some frame else none

/-- The frames of a channel in the order they go. -/
def passage (outlet : Outlet η) (channel : Channel) : List Bytes :=
  outlet.gone channel ++ outlet.held channel ++ outlet.queue channel

/-- Nothing but the frames handed over went to the transport since it was given `earlier`. -/
def Accounts (earlier : List Bytes) (outlet : Outlet η) : Prop :=
  outlet.session.frames = earlier ++ outlet.handed.map Prod.snd

def Move.pushed (channel : Channel) : Move → Option Bytes
  | .push target frame => if target = channel then some frame else none
  | .setPaused _ | .turn => none

theorem passage_push (outlet : Outlet η) (target channel : Channel) (frame : Bytes) :
    (outlet.push target frame).passage channel =
      outlet.passage channel ++ (Move.pushed channel (.push target frame)).toList := by
  cases target <;> cases channel <;>
    simp [push, onDevice, passage, gone, held, queue, Move.pushed, Queues.pushControl,
      Queues.pushWrite]

/-! ## What a turn does -/

def hold (outlet : Outlet η) (endpoint : UInt8) (channel : Channel) (frame : Bytes)
    (queues : Queues) : Outlet η :=
  { outlet.onDevice fun d => { d with queues } with stage := .holding endpoint channel frame }

inductive Turn [Host η] (outlet : Outlet η) : Outlet η → Prop
  | unserved (stage : outlet.stage = .between) : Turn outlet outlet
  | noControl {endpoint : UInt8} (stage : outlet.stage = .between)
      (queued : outlet.session.device.queues.control = []) :
      Turn outlet { outlet with stage := .pauseFlag endpoint }
  | control {endpoint : UInt8} {frame : Bytes} {frames : List Bytes}
      (stage : outlet.stage = .between)
      (queued : outlet.session.device.queues.control = frame :: frames) :
      Turn outlet (outlet.hold endpoint .control frame
        { outlet.session.device.queues with control := frames })
  | paused {endpoint : UInt8} (stage : outlet.stage = .pauseFlag endpoint) :
      Turn outlet { outlet with stage := .between }
  | unpaused {endpoint : UInt8} (stage : outlet.stage = .pauseFlag endpoint)
      (flag : outlet.session.device.txPaused = false) :
      Turn outlet { outlet with stage := .writeQueue endpoint }
  | noData {endpoint : UInt8} (stage : outlet.stage = .writeQueue endpoint) :
      Turn outlet { outlet with stage := .between }
  | data {endpoint : UInt8} {frame : Bytes} {frames : List Bytes}
      (stage : outlet.stage = .writeQueue endpoint)
      (queued : outlet.session.device.queues.write = frame :: frames) :
      Turn outlet (outlet.hold endpoint .data frame
        { outlet.session.device.queues with write := frames })
  | handsOver {endpoint : UInt8} {channel : Channel} {frame : Bytes}
      (stage : outlet.stage = .holding endpoint channel frame) :
      Turn outlet { session := ((Session.transmit endpoint frame).exec outlet.session).2
                    handed := outlet.handed ++ [(channel, frame)] }

variable [Host η]

theorem turn_turns (outlet : Outlet η) : Turn outlet outlet.turn := by
  unfold turn
  cases stage : outlet.stage with
  | between =>
      cases outlet.session.loops.write.endpoint with
      | none => exact .unserved stage
      | some endpoint =>
          cases queued : outlet.session.device.queues.control with
          | nil => simpa [take, Queues.popControl, queued] using .noControl stage queued
          | cons frame frames =>
              simpa [take, Queues.popControl, queued] using .control stage queued
  | pauseFlag endpoint =>
      cases flag : outlet.session.device.txPaused with
      | true => simpa [flag] using .paused stage
      | false => simpa [flag] using .unpaused stage flag
  | writeQueue endpoint =>
      cases queued : outlet.session.device.queues.write with
      | nil => simpa [take, Queues.popWrite, queued] using .noData stage
      | cons frame frames => simpa [take, Queues.popWrite, queued] using .data stage queued
  | holding endpoint channel frame => exact .handsOver stage

/-! ## Conservation -/

theorem passage_turn (outlet : Outlet η) (channel : Channel) :
    outlet.turn.passage channel = outlet.passage channel := by
  have turned := outlet.turn_turns
  generalize outlet.turn = after at turned
  cases turned with
  | unserved => rfl
  | noControl stage | paused stage | unpaused stage | noData stage =>
      simp [passage, gone, held, queue, stage]
  | control stage queued | data stage queued =>
      cases channel <;> simp [hold, onDevice, passage, gone, held, queue, stage, queued]
  | @handsOver endpoint source frame stage =>
      obtain ⟨queues, -⟩ := outlet.session.transmit_leaves endpoint frame
      cases source <;> cases channel <;> simp [passage, gone, held, queue, stage, queues]

theorem passage_next (outlet : Outlet η) (move : Move) (channel : Channel) :
    (outlet.next move).passage channel =
      outlet.passage channel ++ (move.pushed channel).toList := by
  cases move with
  | push target frame => exact passage_push outlet target channel frame
  | setPaused paused => cases channel <;> exact (List.append_nil _).symm
  | turn => exact (passage_turn outlet channel).trans (List.append_nil _).symm

theorem passage_run (outlet : Outlet η) (moves : List Move) (channel : Channel) :
    (outlet.run moves).passage channel =
      outlet.passage channel ++ moves.filterMap (Move.pushed channel) := by
  induction moves generalizing outlet with
  | nil => simp [run]
  | cons move moves ih =>
      rw [run, List.foldl_cons, ← run, ih, passage_next, List.append_assoc]
      cases pushed : move.pushed channel <;> simp [pushed]

theorem Accounts.turn {earlier : List Bytes} (accounts : outlet.Accounts earlier) :
    outlet.turn.Accounts earlier := by
  have turned := outlet.turn_turns
  generalize outlet.turn = after at turned
  cases turned with
  | @handsOver endpoint source frame =>
      obtain ⟨-, frames⟩ := outlet.session.transmit_leaves endpoint frame
      rw [Accounts, frames, accounts, List.map_append, List.append_assoc]
      rfl
  | _ => exact accounts

theorem Accounts.run {earlier : List Bytes} (accounts : outlet.Accounts earlier)
    (moves : List Move) : (outlet.run moves).Accounts earlier := by
  induction moves generalizing outlet with
  | nil => exact accounts
  | cons move moves ih =>
      cases move with
      | turn => exact ih accounts.turn
      | push target frame => exact ih accounts
      | setPaused paused => exact ih accounts

/-! ## Priority and pause -/

/-- The write loop made its last move when `P` held of the moves before it. -/
def LastTurn (P : List Move → Prop) (moves : List Move) : Prop :=
  ∃ before since, moves = before ++ .turn :: since ∧ .turn ∉ since ∧ P before

theorem LastTurn.turn {P : List Move → Prop} {moves : List Move} (held : P moves) :
    LastTurn P (moves ++ [.turn]) :=
  ⟨moves, [], rfl, List.not_mem_nil, held⟩

theorem LastTurn.concat {P : List Move → Prop} {moves : List Move} {move : Move}
    (last : LastTurn P moves) (other : move ≠ .turn) : LastTurn P (moves ++ [move]) := by
  obtain ⟨before, since, rfl, quiet, held⟩ := last
  refine ⟨before, since ++ [move], by simp, ?_, held⟩
  simp [quiet, other.symm]

/-- The step under way began by finding the control queue empty. -/
def FoundNoControl (outlet : Outlet η) : List Move → Prop :=
  LastTurn fun moves =>
    (outlet.run moves).stage = .between ∧ (outlet.run moves).queue .control = []

/-- After that it found transmission not paused. -/
def FoundUnpaused (outlet : Outlet η) : List Move → Prop :=
  LastTurn fun moves =>
    (outlet.run moves).session.device.txPaused = false ∧ outlet.FoundNoControl moves

/-- And after that it took a data frame. -/
def TookData (outlet : Outlet η) (frame : Bytes) : List Move → Prop :=
  LastTurn fun moves =>
    ((outlet.run moves).queue .data).head? = some frame ∧ outlet.FoundUnpaused moves

/-- How the step under way came to its stage. -/
def Reached (outlet : Outlet η) (moves : List Move) : WriteStage → Prop
  | .between | .holding _ .control _ => True
  | .pauseFlag _ => outlet.FoundNoControl moves
  | .writeQueue _ => outlet.FoundUnpaused moves
  | .holding _ .data frame => outlet.TookData frame moves

theorem Reached.concat {moves : List Move} {stage : WriteStage} {move : Move}
    (reached : outlet.Reached moves stage) (other : move ≠ .turn) :
    outlet.Reached (moves ++ [move]) stage := by
  cases stage with
  | between => trivial
  | pauseFlag endpoint => exact LastTurn.concat reached other
  | writeQueue endpoint => exact LastTurn.concat reached other
  | holding endpoint channel frame =>
      cases channel with
      | control => trivial
      | data => exact LastTurn.concat reached other

theorem Reached.turn {moves : List Move}
    (reached : outlet.Reached moves (outlet.run moves).stage) :
    outlet.Reached (moves ++ [.turn]) (outlet.run moves).turn.stage := by
  have turned := (outlet.run moves).turn_turns
  generalize (outlet.run moves).turn = after at turned
  cases turned with
  | unserved stage =>
      rw [stage]
      trivial
  | noControl stage queued => exact LastTurn.turn ⟨stage, queued⟩
  | unpaused stage flag =>
      rw [stage] at reached
      exact LastTurn.turn ⟨flag, reached⟩
  | data stage queued =>
      rw [stage] at reached
      exact LastTurn.turn ⟨by rw [queue, queued]; rfl, reached⟩
  | control | paused | noData | handsOver => trivial

theorem run_concat (outlet : Outlet η) (moves : List Move) (move : Move) :
    outlet.run (moves ++ [move]) = (outlet.run moves).next move :=
  List.foldl_append

theorem run_reached (fresh : outlet.stage = .between) (moves : List Move) :
    outlet.Reached moves (outlet.run moves).stage := by
  -- What was found is a fact about the moves before, so the run grows at its end.
  induction moves using List.reverseRecOn with
  | nil =>
      rw [run, List.foldl_nil, fresh]
      trivial
  | append_singleton moves move ih =>
      rw [run_concat]
      cases move with
      | turn => exact ih.turn
      | push target frame => exact ih.concat nofun
      | setPaused paused => exact ih.concat nofun

theorem took_data (fresh : outlet.stage = .between) (moves : List Move) {frame : Bytes}
    (hands : (outlet.run moves).turn.handed = (outlet.run moves).handed ++ [(.data, frame)]) :
    outlet.TookData frame moves := by
  have reached := run_reached fresh moves
  have turned := (outlet.run moves).turn_turns
  generalize (outlet.run moves).turn = after at turned hands
  cases turned with
  | handsOver stage =>
      obtain ⟨rfl, rfl⟩ : _ = Channel.data ∧ _ = frame := by simpa using hands
      rwa [stage] at reached
  | _ => simp [hold, onDevice] at hands

/-! ## Whole steps and whole runs -/

/-- The turns of a step that nobody comes between are a step of the write loop. -/
theorem turns_eq_writeStep (fresh : outlet.stage = .between) :
    ∃ n more, turn^[n + 1] outlet =
      { session := (Session.writeStep.exec outlet.session).2
        handed := outlet.handed ++ more } := by
  obtain ⟨session, stage, handed⟩ := outlet
  cases fresh
  cases serves : session.loops.write.endpoint with
  | none =>
      refine ⟨0, [], ?_⟩
      simp [turn, serves, Session.writeStep, exec_bind, Session.exec_get]
  | some endpoint =>
      cases control : session.device.queues.control with
      | cons frame frames =>
          have popped : session.device.queues.popFrame session.device.txPaused =
              (some frame, { session.device.queues with control := frames }) := by
            simp [Queues.popFrame, Queues.popControl, control]
          rw [Session.exec_writeStep_some serves popped]
          refine ⟨1, [(.control, frame)], ?_⟩
          simp [turn, take, onDevice, serves, Queues.popControl, control, Session.sent]
      | nil =>
          cases paused : session.device.txPaused with
          | true =>
              rw [Session.exec_writeStep_none serves (by simp [Queues.popFrame, control, paused])]
              refine ⟨1, [], ?_⟩
              simp [turn, take, serves, Queues.popControl, control, paused]
          | false =>
              cases write : session.device.queues.write with
              | nil =>
                  rw [Session.exec_writeStep_none serves
                    (by simp [Queues.popFrame, Queues.popWrite, control, paused, write])]
                  refine ⟨2, [], ?_⟩
                  simp [turn, take, serves, Queues.popControl, Queues.popWrite, control, paused,
                    write]
              | cons frame frames =>
                  have popped : session.device.queues.popFrame session.device.txPaused =
                      (some frame, { session.device.queues with write := frames }) := by
                    simp [Queues.popFrame, Queues.popWrite, control, paused, write]
                  rw [Session.exec_writeStep_some serves popped]
                  refine ⟨3, [(.data, frame)], ?_⟩
                  simp [turn, take, onDevice, serves, Queues.popControl, Queues.popWrite, control,
                    paused, write, Session.sent]

/-- Whatever turns producers and write loop take, and whatever becomes of the transfers: the frames
of a channel that were handed over, the one that is about to be and those that still wait are the
frames that were queued, in their order. The transport was given what was handed over and nothing
else, and a data frame only by a step that had found the control queue empty and then no pause. -/
theorem sends_in_order (session : Session η) (moves : List Move) :
    let start : Outlet η := { session }
    let reached := start.run moves
    (∀ channel, reached.gone channel ++ reached.held channel ++ reached.queue channel =
      start.queue channel ++ moves.filterMap (Move.pushed channel)) ∧
    reached.session.frames = session.frames ++ reached.handed.map Prod.snd ∧
    ∀ frame, reached.turn.handed = reached.handed ++ [(.data, frame)] →
      start.TookData frame moves := by
  intro start reached
  have accounts : start.Accounts session.frames := (List.append_nil _).symm
  exact ⟨passage_run start moves, accounts.run moves, fun frame => took_data rfl moves⟩

/-- A control frame and a pause come between the looks of a step: the data frame goes two steps
later. -/
theorem sends_in_order_around_pause :
    let session := (Session.create ⟨220, 23, 0⟩ ({} : ScriptedModem) {} {}).run [.start, .open]
    let moves : List Move := [.push .data [1], .turn, .push .control [2], .setPaused true, .turn,
      .turn, .turn, .setPaused false, .turn, .turn, .turn]
    let start : Outlet ScriptedModem := { session }
    (start.run moves).turn.handed = [(.control, [2]), (.data, [1])] ∧ start.TookData [1] moves := by
  intro session moves start
  refine ⟨by decide +kernel, (sends_in_order session moves).2.2 [1] ?_⟩
  decide +kernel

end Outlet

end ModemLink
