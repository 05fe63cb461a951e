import Mathlib.Data.List.Forall2
import ModemLink.Proofs.Dispatch.Conservation
import ModemLink.Proofs.Dispatch.Delivery

/-!
# Flow control is obeyed and acknowledged

The flow-control messages of a transfer are those of its segments that the control channel accepts
(`messages`). Dispatching the transfer tells each command, leaves transmission as the last one wants
it, and queues one acknowledgement for each request, which asks for no acknowledgement in turn.
-/

namespace ModemLink

/-- The message that a segment carries on the control channel. -/
def message? (channels : Channels) (segment : Bytes) : Option FlowControl :=
  match Frame.decode channels .control true segment with
  | .payload _ data => (FlowControl.decode data).toOption
  | .passthrough _ | .notAFrame _ | .dropped _ => none

def messages (mux : MuxConfig) (buffer : Bytes) : List FlowControl :=
  (Session.pieces mux buffer).filterMap (message? mux.channels)

def Event.command? : Event → Option FlowCommand
  | .notify (.flowControl command) => some command
  | _ => none

def Session.commands {η : Type} (session : Session η) : List FlowCommand :=
  session.trace.toList.filterMap Event.command?

/-- On the control channel the frame reads as the message, marked as an acknowledgement. -/
def FlowControl.AckedBy (channels : Channels) (message : FlowControl) (frame : Bytes) : Prop :=
  ∃ data, Frame.decode channels .control true frame = .payload channels.control data ∧
    FlowControl.decode data = .ok { message with type := 1 }

def FlowControl.ackFrame (channels : Channels) (message : FlowControl) : Bytes :=
  Frame.framed channels.control message.ack.encode

/-- The control channel can be told from the data channel, and frames can be addressed to it. -/
structure MuxConfig.Controllable (mux : MuxConfig) : Prop where
  enabled : mux.enabled = true
  distinct : mux.channels.control ≠ mux.channels.data
  control : 1 ≤ mux.channels.control ∧ mux.channels.control ≤ 63

variable {η : Type} {mux : MuxConfig} {channels : Channels} {segment : Bytes}
  {message : FlowControl}

/-! ## Segments of the control channel -/

/-- What the control channel accepts is refused by the data channel as addressed to the other. -/
theorem decode_data_of_decode_control (distinct : channels.control ≠ channels.data) {dlci : UInt8}
    {data : Bytes} (accepted : Frame.decode channels .control true segment = .payload dlci data) :
    Frame.decode channels .data true segment =
      .dropped (.dlciMismatch channels.data channels.control) := by
  obtain ⟨address, control, field, fcs, rest, rfl, addressed, rfl, present, announced, -⟩ :=
    Frame.decode_eq_payload_iff.mp accepted
  have other : address >>> 2 ≠ channels.dlci .data := addressed.trans_ne distinct
  rw [Frame.decode_flag, Frame.decodeBody_header announced, if_neg (addressed ▸ present),
    if_pos other, addressed]
  rfl

theorem befall_of_message (enabled : mux.enabled = true)
    (distinct : mux.channels.control ≠ mux.channels.data)
    (carried : message? mux.channels segment = some message) (session : Session η) :
    session.befall mux.channels (fate mux segment) = session.obeyed mux.channels message := by
  unfold message? at carried
  cases accepted : Frame.decode mux.channels .control true segment with
  | passthrough | notAFrame | dropped => simp [accepted] at carried
  | payload dlci data =>
      rw [accepted] at carried
      have refused := decode_data_of_decode_control distinct accepted
      cases read : FlowControl.decode data with
      | error e => simp [read, Except.toOption] at carried
      | ok other =>
          obtain rfl : other = message := by simpa [read, Except.toOption] using carried
          simp only [fate, enabled, refused, if_true, Fate.ofControl, accepted, Session.befall,
            read]

/-! ## What is heeded of messages -/

/-- All that these messages call for has been told, set and queued between `before` and `after`. -/
structure Session.Heeded (channels : Channels) (before : Session η) (messages : List FlowControl)
    (after : Session η) : Prop where
  commands : after.commands = before.commands ++ messages.map FlowControl.command
  txPaused : after.device.txPaused =
    messages.getLast?.elim before.device.txPaused fun message => message.command == .pause
  control : after.device.queues.control = before.device.queues.control ++
    (messages.filter FlowControl.isRequest).map (FlowControl.ackFrame channels)

namespace Session

variable {before next after : Session η} {earlier later : List FlowControl}

theorem heeded_nil (session : Session η) : session.Heeded channels [] session where
  commands := (List.append_nil _).symm
  txPaused := rfl
  control := (List.append_nil _).symm

theorem Heeded.append (heeded : before.Heeded channels earlier next)
    (rest : next.Heeded channels later after) :
    before.Heeded channels (earlier ++ later) after where
  commands := by rw [rest.commands, heeded.commands, List.map_append, List.append_assoc]
  txPaused := by
    rw [rest.txPaused, heeded.txPaused, List.getLast?_append]
    cases later.getLast? with
    | none => rfl
    | some message => rfl
  control := by
    rw [rest.control, heeded.control, List.filter_append, List.map_append, List.append_assoc]

/-- An acknowledgement always fits into a frame. -/
theorem encode_ack (small : channels.control ≤ 63) (message : FlowControl) :
    Frame.encode channels .control message.ack.encode = .ok (message.ackFrame channels) :=
  Frame.encode_ok small (length_encode_le_maxPayload message.ack)

theorem heeded_obeyed (small : channels.control ≤ 63) (session : Session η)
    (message : FlowControl) :
    session.Heeded channels [message] (session.obeyed channels message) where
  commands := by simp [commands, obeyed, Event.command?]
  txPaused := rfl
  control := by
    simp only [obeyed, encode_ack small]
    cases request : message.isRequest with
    | false => simp [request]
    | true => simp [request]

theorem heeded_befall (controllable : mux.Controllable) (segment : Bytes) (session : Session η) :
    session.Heeded mux.channels (message? mux.channels segment).toList
      (session.befall mux.channels (fate mux segment)) := by
  cases carried : message? mux.channels segment with
  | some message =>
      rw [befall_of_message controllable.enabled controllable.distinct carried]
      exact heeded_obeyed controllable.control.2 session message
  | none =>
      cases outcome : fate mux segment with
      | indicated payload =>
          refine ⟨?_, rfl, (List.append_nil _).symm⟩
          simp [commands, befall, indicate, Event.command?]
      | silent | dropped => exact ⟨(List.append_nil _).symm, rfl, (List.append_nil _).symm⟩
      | controlled data =>
          have befits := befits_fate mux segment session
          rw [outcome] at befits
          have accepted := befits.2.1
          cases read : FlowControl.decode data with
          | ok message => simp [message?, accepted, read, Except.toOption] at carried
          | error e =>
              simp only [befall, read]
              exact heeded_nil session

theorem heeded_foldl (controllable : mux.Controllable) (segments : List Bytes)
    (session : Session η) :
    session.Heeded mux.channels (segments.filterMap (message? mux.channels))
      ((segments.map (fate mux)).foldl (befall mux.channels) session) := by
  induction segments generalizing session with
  | nil => exact heeded_nil session
  | cons segment segments ih =>
      have first := (heeded_befall controllable segment session).append (ih _)
      rw [List.filterMap_cons]
      cases carried : message? mux.channels segment with
      | none => simpa [carried] using first
      | some message => simpa [carried] using first

theorem heeded_dispatchBuffer {session : Session η} (controllable : session.device.mux.Controllable)
    (buffer : Bytes) :
    ∃ after, (dispatchBuffer buffer).exec session = (.ok (), after) ∧
      session.Heeded session.device.mux.channels (messages session.device.mux buffer) after :=
  ⟨_, exec_dispatchBuffer buffer session, heeded_foldl controllable _ session⟩

end Session

/-! ## Acknowledgements -/

theorem ackedBy_ackFrame (control : 1 ≤ channels.control ∧ channels.control ≤ 63)
    (message : FlowControl) : message.AckedBy channels (message.ackFrame channels) := by
  have address : channels.dlci .control = channels.control := rfl
  have accepted := Frame.decode_framed_append address (dlci_ne_zero control.1) control.2
    (length_encode_le_maxPayload message.ack) []
  have read := FlowControl.decode_encode_append (m := message.ack) (by decide : (1 : UInt8) ≤ 3) []
  rw [List.append_nil] at accepted read
  exact ⟨message.ack.encode, accepted, read⟩

/-- An acknowledgement that comes in is a message of its own, and no request. -/
theorem messages_ackFrame (controllable : mux.Controllable) (message : FlowControl) :
    messages mux (message.ackFrame mux.channels) = [message.ack] := by
  obtain ⟨data, accepted, read⟩ := ackedBy_ackFrame controllable.control message
  have length : Frame.frameLength? (message.ackFrame mux.channels ++ []) =
      some (message.ackFrame mux.channels).length :=
    Frame.frameLength?_framed_append (length_encode_le_maxPayload message.ack) []
  rw [List.append_nil] at length
  have whole : Frame.split (message.ackFrame mux.channels) = [message.ackFrame mux.channels] := by
    apply Frame.split_whole
    intro n known
    exact (Option.some.inj (length.symm.trans known)).le
  have carried : message? mux.channels (message.ackFrame mux.channels) = some message.ack := by
    simp only [message?, accepted, read]
    rfl
  simp only [messages, Session.pieces, controllable.enabled, if_true, whole, List.filterMap_cons,
    carried, List.filterMap_nil]

/-- Dispatching any transfer tells the layer above exactly the commands of its flow-control
messages and leaves transmission paused or not as the last of them says. Each request, and nothing
else, puts one frame on the control queue, which the peer reads as the same message marked as an
acknowledgement; framing it never fails, and the peer's own dispatch queues nothing for it. -/
theorem dispatchBuffer_acknowledges (session : Session η) (buffer : Bytes)
    (enabled : session.device.mux.enabled = true)
    (distinct : session.device.mux.channels.control ≠ session.device.mux.channels.data)
    (positive : 1 ≤ session.device.mux.channels.control)
    (small : session.device.mux.channels.control ≤ 63) :
    let channels := session.device.mux.channels
    let messages := messages session.device.mux buffer
    ∃ after acks, (Session.dispatchBuffer buffer).exec session = (.ok (), after) ∧
      after.commands = session.commands ++ messages.map FlowControl.command ∧
      after.device.txPaused =
        messages.getLast?.elim session.device.txPaused (fun message => message.command == .pause) ∧
      after.device.queues.control = session.device.queues.control ++ acks ∧
      List.Forall₂ (FlowControl.AckedBy channels)
        (messages.filter fun message => message.type = 0) acks ∧
      (∀ message ∈ messages, ∃ frame,
        Frame.encode channels .control message.ack.encode = .ok frame) ∧
      ∀ ack ∈ acks, ∀ peer : Session η, peer.device.mux.enabled = true →
        peer.device.mux.channels = channels →
        ∃ later, (Session.dispatchBuffer ack).exec peer = (.ok (), later) ∧
          later.device.queues.control = peer.device.queues.control := by
  intro channels messages
  have controllable : session.device.mux.Controllable := ⟨enabled, distinct, positive, small⟩
  obtain ⟨after, run, heeded⟩ := Session.heeded_dispatchBuffer controllable buffer
  have requests : (messages.filter fun message => message.type = 0) =
      messages.filter FlowControl.isRequest := List.filter_congr fun message _ => rfl
  refine ⟨after, (messages.filter FlowControl.isRequest).map (FlowControl.ackFrame channels), run,
    heeded.commands, heeded.txPaused, heeded.control, ?_, ?_, ?_⟩
  · rw [requests, List.forall₂_map_right_iff, List.forall₂_same]
    exact fun message _ => ackedBy_ackFrame ⟨positive, small⟩ message
  · exact fun message _ => ⟨_, Session.encode_ack small message⟩
  · intro ack queued peer on same
    obtain ⟨message, -, rfl⟩ := List.mem_map.mp queued
    have peerControllable : peer.device.mux.Controllable :=
      ⟨on, same ▸ distinct, same ▸ ⟨positive, small⟩⟩
    obtain ⟨later, answered, heeded⟩ :=
      Session.heeded_dispatchBuffer peerControllable (message.ackFrame channels)
    refine ⟨later, answered, ?_⟩
    have control := heeded.control
    rw [← same, messages_ackFrame peerControllable message] at control
    exact control.trans (List.append_nil _)

/-- A request to pause, a payload, and an acknowledgement of a request to resume, in one transfer:
both commands are told, and only the request is acknowledged. -/
theorem dispatchBuffer_acknowledges_one_of_two :
    let mux : MuxConfig := { enabled := true }
    let pause : FlowControl :=
      { muxId := 0, command := .pause, transaction := 42, type := 0, sequence := 0, qos := 0 }
    let resume : FlowControl := { pause with command := .resume, type := 1 }
    let buffer : Bytes := [0xF9, 0x05, 0xEF, 0x29] ++ pause.encode ++ [0x60, 0xF9] ++
      [0xF9, 0x09, 0xEF, 0x05, 0x45, 0x46, 0xD6, 0xF9] ++
      [0xF9, 0x05, 0xEF, 0x29] ++ resume.encode ++ [0x60, 0xF9]
    let session := Session.create ⟨0, 0, 0⟩ () {} { mux }
    (mux.enabled = true ∧ mux.channels.control ≠ mux.channels.data ∧
      1 ≤ mux.channels.control ∧ mux.channels.control ≤ 63) ∧
    messages mux buffer = [pause, resume] ∧
    ∃ after acks, (Session.dispatchBuffer buffer).exec session = (.ok (), after) ∧
      after.commands = [.pause, .resume] ∧ after.device.txPaused = false ∧
      after.device.queues.control = acks ∧
      List.Forall₂ (FlowControl.AckedBy mux.channels) [pause] acks ∧
      ∀ ack ∈ acks, ∀ peer : Session Unit, peer.device.mux.enabled = true →
        peer.device.mux.channels = mux.channels →
        ∃ later, (Session.dispatchBuffer ack).exec peer = (.ok (), later) ∧
          later.device.queues.control = peer.device.queues.control := by
  intro mux pause resume buffer session
  have usable : mux.enabled = true ∧ mux.channels.control ≠ mux.channels.data ∧
      1 ≤ mux.channels.control ∧ mux.channels.control ≤ 63 := by decide
  have carried : messages mux buffer = [pause, resume] := by decide +kernel
  obtain ⟨after, acks, run, commands, paused, control, acked, -, quiet⟩ :=
    dispatchBuffer_acknowledges session buffer usable.1 usable.2.1 usable.2.2.1 usable.2.2.2
  have known : messages session.device.mux buffer = [pause, resume] := carried
  rw [known] at commands paused acked
  exact ⟨usable, carried, after, acks, run, commands, paused, control, acked, quiet⟩

end ModemLink
