import ModemLink.Proofs.Session.Execution
import ModemLink.Session.Loops

/-!
# What becomes of a segment

Dispatching a segment of a transfer never fails. Its outcome depends on the multiplexer and the
segment alone (`fate`), and `befall` is all that it does to the session
(`exec_dispatchFrame`, `exec_dispatchBuffer`).
-/

namespace ModemLink

inductive Fate where
  /-- Its payload goes to the layer above. -/
  | indicated (payload : Bytes)
  /-- It carries no octet. -/
  | silent
  | dropped
  /-- It is a valid frame of the control channel. -/
  | controlled (data : Bytes)
  deriving DecidableEq, Repr

namespace Fate

def ofPayload (payload : Bytes) : Fate :=
  if payload = [] then .silent else .indicated payload

/-- The fate of a frame addressed to the control channel. -/
def ofControl (channels : Channels) (segment : Bytes) : Fate :=
  match Frame.decode channels .control true segment with
  | .payload _ data => .controlled data
  | .passthrough _ | .notAFrame _ | .dropped _ => .dropped

end Fate

def fate (mux : MuxConfig) (segment : Bytes) : Fate :=
  match Frame.decode mux.channels .data mux.enabled segment with
  | .passthrough data => .ofPayload data
  | .payload _ data => .ofPayload data
  | .notAFrame _ => .ofPayload segment
  | .dropped (.dlciMismatch _ found) =>
      if found = mux.channels.control then .ofControl mux.channels segment else .dropped
  | .dropped _ => .dropped

namespace Session

variable {η : Type}

def indicate (session : Session η) (payload : Bytes) : Session η :=
  { session with
    device := { session.device with stats := session.device.stats.recordRx payload.length }
    trace := session.trace.push (.notify (.received payload)) }

def countDrop (session : Session η) : Session η :=
  { session with device := { session.device with stats := session.device.stats.recordDrop } }

/-- A flow-control message is obeyed, told and, if it is a request, acknowledged. -/
def obeyed (session : Session η) (channels : Channels) (message : FlowControl) : Session η :=
  let acks := if message.isRequest then
      match Frame.encode channels .control message.ack.encode with
      | .ok frame => [frame]
      | .error _ => []
    else []
  { session with
    device := { session.device with
      txPaused := message.command == .pause
      queues := { session.device.queues with control := session.device.queues.control ++ acks } }
    trace := session.trace.push (.notify (.flowControl message.command)) }

def befall (channels : Channels) (session : Session η) : Fate → Session η
  | .indicated payload => session.indicate payload
  | .silent => session
  | .dropped => session.countDrop
  | .controlled data =>
      match FlowControl.decode data with
      | .ok message => session.obeyed channels message
      | .error _ => session

/-! ## Dispatching does what the fate says -/

theorem exec_deliver (payload : Bytes) (session : Session η) (channels : Channels) :
    (deliver payload).exec session = (.ok (), session.befall channels (.ofPayload payload)) := by
  cases payload with
  | nil => rfl
  | cons => rfl

theorem exec_obey (channels : Channels) (message : FlowControl) (session : Session η) :
    (obey channels message).exec session = (.ok (), session.obeyed channels message) := by
  unfold obey obeyed
  simp only [Act.exec_bind, Act.exec_onDevice, Act.exec_notify]
  cases message.isRequest with
  | false => simp
  | true =>
      simp only [if_true]
      cases Frame.encode channels .control message.ack.encode with
      | ok frame => rfl
      | error e => simp only [Act.exec_pure, List.append_nil]

theorem exec_dispatchControl (channels : Channels) (segment : Bytes) (session : Session η) :
    (dispatchControl channels segment).exec session =
      (.ok (), session.befall channels (.ofControl channels segment)) := by
  unfold dispatchControl Fate.ofControl
  cases Frame.decode channels .control true segment with
  | payload dlci data =>
      simp only [befall]
      cases FlowControl.decode data with
      | ok message => exact exec_obey channels message session
      | error e => rfl
  | passthrough | notAFrame | dropped => rfl

theorem exec_dispatchFrame (mux : MuxConfig) (segment : Bytes) (session : Session η) :
    (dispatchFrame mux segment).exec session =
      (.ok (), session.befall mux.channels (fate mux segment)) := by
  unfold dispatchFrame fate
  cases Frame.decode mux.channels .data mux.enabled segment with
  | passthrough data => exact exec_deliver data session _
  | payload dlci data => exact exec_deliver data session _
  | notAFrame length => exact exec_deliver segment session _
  | dropped reason =>
      cases reason with
      | dlciMismatch expected found =>
          simp only
          split
          · exact exec_dispatchControl mux.channels segment session
          · rfl
      | controlChannel | truncated | fcsMismatch => rfl

theorem exec_forM_dispatchFrame (mux : MuxConfig) (segments : List Bytes) (session : Session η) :
    (segments.forM (dispatchFrame mux)).exec session =
      (.ok (), (segments.map (fate mux)).foldl (befall mux.channels) session) := by
  induction segments generalizing session with
  | nil => rfl
  | cons segment segments ih =>
      calc ((segment :: segments).forM (dispatchFrame mux)).exec session
          = (segments.forM (dispatchFrame mux)).exec
              (session.befall mux.channels (fate mux segment)) :=
            Act.exec_bind_ok (exec_dispatchFrame mux segment session)
        _ = _ := ih _

theorem exec_dispatchBuffer (buffer : Bytes) (session : Session η) :
    (dispatchBuffer buffer).exec session =
      (.ok (), ((pieces session.device.mux buffer).map (fate session.device.mux)).foldl
        (befall session.device.mux.channels) session) := by
  unfold dispatchBuffer
  rw [Act.exec_bind_ok (Act.exec_device session)]
  exact exec_forM_dispatchFrame _ _ session

end Session

end ModemLink
