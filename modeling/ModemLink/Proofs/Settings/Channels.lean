import ModemLink.Proofs.Dispatch.Conservation
import ModemLink.Proofs.Dispatch.Delivery
import ModemLink.Proofs.Session.Scope
import ModemLink.Scripted
import ModemLink.Session.Happening
import ModemLink.Settings.Basic

/-!
# Settings and channels

Settings that are found valid give the two channels of the multiplexer addresses of their own. A
session run with them frames every payload that fits, and a peer with the same settings takes it for
what it is: data goes to the layer above, and control to the parser of flow control
(`valid_settings_keep_channels_apart`).
-/

namespace ModemLink

open Act Footprint

/-! ## Validation -/

namespace Settings

variable {settings : Settings}

theorem ok_of_bind {ε α β : Type} {first : Except ε α} {next : α → Except ε β} {b : β}
    (succeeds : first >>= next = .ok b) : ∃ a, first = .ok a ∧ next a = .ok b := by
  cases first with
  | ok a => exact ⟨a, rfl, succeeds⟩
  | error e => cases succeeds

/-- A check that was passed found nothing, and what follows it succeeded too. -/
theorem ok_of_check {ε α : Type} {faulty : Prop} [Decidable faulty] {fault : ε}
    {next : PUnit → Except ε α} {rest : Except ε α} {a : α}
    (succeeds : (if faulty then throw fault >>= next else rest) = .ok a) :
    ¬faulty ∧ rest = .ok a := by
  split at succeeds
  · cases succeeds
  · rename_i passed
    exact ⟨passed, succeeds⟩

theorem checkDlci_ok {name : String} {dlci : UInt8} (checked : checkDlci name dlci = .ok ()) :
    1 ≤ dlci ∧ dlci ≤ 63 := by
  unfold checkDlci at checked
  split at checked <;> rename_i inside
  · cases checked
  · simp only [Bool.or_eq_true, decide_eq_true_eq, not_or] at inside
    exact ⟨UInt8.pos_iff_ne_zero.mpr inside.1, UInt8.not_lt.mp inside.2⟩

theorem usable_of_valid (valid : settings.validate = .ok ())
    (enabled : settings.mux.enabled = true) : settings.muxConfig.Usable := by
  unfold validate at valid
  dsimp only at valid
  obtain ⟨-, valid⟩ := ok_of_check valid
  obtain ⟨-, valid⟩ := ok_of_check valid
  obtain ⟨_, -, valid⟩ := ok_of_bind valid
  obtain ⟨_, -, valid⟩ := ok_of_bind valid
  obtain ⟨_, control, valid⟩ := ok_of_bind valid
  obtain ⟨_, data, valid⟩ := ok_of_bind valid
  obtain ⟨distinct, -⟩ := ok_of_check valid
  exact ⟨enabled, distinct, checkDlci_ok control, checkDlci_ok data⟩

end Settings

/-! ## Sending -/

namespace Session

variable {η θ : Type} [Host η]

/-- A frame waits in the queue of its channel, and the write loop has been kicked. -/
def queued (session : Session η) (channel : Channel) (frame : Bytes) : Session η :=
  { session with
    device := { session.device with queues := match channel with
      | .data => session.device.queues.pushWrite frame
      | .control => session.device.queues.pushControl frame }
    trace := session.trace.push (.kickLoop .write) }

theorem mux_next (session : Session η) (happening : Happening) :
    (session.next happening).device.mux = session.device.mux := by
  cases happening with
  | operation operation =>
      have within := within_perform (η := η) (F := everything) operation (fun _ => trivial)
        fun _ _ => ⟨trivial, trivial⟩
      exact (within session).1.mux
  | loop name => exact (reaches_loop session name).mux
  | transfers busy => rfl

theorem mux_through (session : Session η) (happenings : List Happening) :
    (session.through happenings).device.mux = session.device.mux := by
  induction happenings generalizing session with
  | nil => rfl
  | cons happening happenings ih => exact (ih _).trans (mux_next session happening)

theorem exec_ensureAwake_awake {session : Session η}
    (awake : session.device.power.device.isLow = false) :
    ensureAwake.exec session = (.ok (), session) := by
  unfold ensureAwake
  rw [exec_bind_ok (exec_device session), awake]
  rfl

theorem exec_send_awake {session : Session η} (usable : session.device.mux.Usable)
    (attached : session.device.lifecycle = .started true)
    (awake : session.device.power.device.isLow = false) (channel : Channel) {payload : Bytes}
    (fits : payload.length ≤ Frame.maxPayload) :
    (send channel payload).exec session = (.ok (), session.queued channel
      (Frame.framed (session.device.mux.channels.dlci channel) payload)) := by
  have framed := Frame.encode_ok (usable.address channel).2 fits
  unfold send
  rw [exec_bind_ok (exec_device session)]
  simp only [attached, Lifecycle.inService, Bool.not_true, Bool.false_eq_true, if_false]
  rw [exec_bind_ok (exec_ensureAwake_awake awake), exec_bind_ok (exec_device session)]
  simp only [usable.enabled, if_true, framed, pure_bind]
  cases channel <;> rfl

/-- One whole frame is one segment, and goes where its channel says. -/
theorem exec_dispatchBuffer_framed {peer : Session θ} (usable : peer.device.mux.Usable)
    (channel : Channel) {payload : Bytes} (fits : payload.length ≤ Frame.maxPayload) :
    (dispatchBuffer (Frame.framed (peer.device.mux.channels.dlci channel) payload)).exec peer =
      (.ok (), peer.befall peer.device.mux.channels (.carried channel payload)) := by
  have one : Frame.split (Frame.framed (peer.device.mux.channels.dlci channel) payload) =
      [Frame.framed (peer.device.mux.channels.dlci channel) payload] := by
    refine (congrArg Frame.split (List.append_nil _).symm).trans
      (Frame.split_flatten (List.cons_ne_nil _ []) ?_)
    intro frame member
    rw [List.mem_singleton.mp member]
    exact ⟨Frame.framed_ne_nil, Frame.frameLength?_framed_append fits⟩
  rw [exec_dispatchBuffer, pieces, if_pos usable.enabled, one, List.map_singleton,
    fate_framed usable channel fits]
  rfl

end Session

open Session

/-- With settings that are valid and enable the multiplexer, a session that serves its client at
full power sends every payload that fits on either channel: one frame is queued. It reads as the
payload on its own channel and is dropped on the other. A peer with the same settings tells the
layer above of the data it carries and parses the control, never the one for the other. -/
theorem valid_settings_keep_channels_apart {η θ : Type} [Host η] {settings : Settings}
    (valid : settings.validate = .ok ()) (enabled : settings.mux.enabled = true)
    (key : AdapterKey) (host : η) (store : Store) (happenings : List Happening)
    {session : Session η}
    (reached : (create key host store settings.sessionOptions).through happenings = session)
    (attached : session.device.lifecycle = .started true)
    (awake : session.device.power.device.isLow = false)
    (channel : Channel) {payload : Bytes} (fits : payload.length ≤ 0x7FFF) :
    let channels := settings.muxConfig.channels
    ∃ frame, (send channel payload).exec session = (.ok (), session.queued channel frame) ∧
      Frame.decode channels channel true frame = .payload (channels.dlci channel) payload ∧
      (∀ other, other ≠ channel → Frame.decode channels other true frame =
        .dropped (.dlciMismatch (channels.dlci other) (channels.dlci channel))) ∧
      ∀ peer : Session θ, peer.device.mux = settings.muxConfig →
        ∃ after, (dispatchBuffer frame).exec peer = (.ok (), after) ∧
          match channel with
          | .data => after = if payload = [] then peer else peer.indicate payload
          | .control =>
              after.indications = peer.indications ∧
                after = match FlowControl.decode payload with
                  | .ok message => peer.obeyed channels message
                  | .error _ => peer := by
  intro channels
  have mux : session.device.mux = settings.muxConfig := by
    rw [← reached, mux_through]
    rfl
  have usable := Settings.usable_of_valid valid enabled
  refine ⟨Frame.framed (channels.dlci channel) payload, ?_, decode_own usable fits,
    fun other differs => decode_other usable differs fits, ?_⟩
  · have sent := exec_send_awake (mux ▸ usable) attached awake channel fits
    rwa [mux] at sent
  · intro peer same
    have usable' : peer.device.mux.Usable := same ▸ usable
    have handed := exec_dispatchBuffer_framed usable' channel fits
    rw [same] at handed
    refine ⟨_, handed, ?_⟩
    cases channel with
    | data =>
        simp only [Fate.carried, Fate.ofPayload]
        split <;> rfl
    | control =>
        refine ⟨?_, rfl⟩
        simp only [Fate.carried, befall]
        split
        · exact indications_obeyed peer _ _
        · rfl

/-- A request for flow control, sent on the control channel of a modem on channels 5 and 9. -/
theorem valid_settings_keep_channels_apart_pause :
    let settings : Settings := { mux := { enabled := true, controlDlci := 5, dataDlci := 9 } }
    let pause : Bytes := FlowControl.encode
      { muxId := 0, command := .pause, transaction := 1, type := 0, sequence := 0, qos := 0 }
    let session := (create ⟨1, 4, 0⟩ ({} : ScriptedModem) {} settings.sessionOptions).through
      [.operation .start, .operation .open]
    (settings.validate = .ok () ∧ settings.mux.enabled = true) ∧
      (session.device.lifecycle = .started true ∧ session.device.power.device.isLow = false) ∧
      pause.length ≤ 0x7FFF ∧
      ∃ frame, (send .control pause).exec session = (.ok (), session.queued .control frame) ∧
        Frame.decode ⟨5, 9⟩ .data true frame = .dropped (.dlciMismatch 9 5) ∧
        ∃ after, (dispatchBuffer frame).exec session = (.ok (), after) ∧
          after.indications = session.indications := by
  intro settings pause session
  have valid : settings.validate = .ok () := by decide +kernel
  have serving : session.device.lifecycle = .started true ∧
      session.device.power.device.isLow = false := by decide +kernel
  have fits : pause.length ≤ 0x7FFF := by decide
  obtain ⟨frame, sent, -, refused, handed⟩ := valid_settings_keep_channels_apart
    (θ := ScriptedModem) valid rfl _ _ _ _ (rfl : _ = session) serving.1 serving.2 .control fits
  have same : session.device.mux = settings.muxConfig := by decide +kernel
  obtain ⟨after, dispatched, kept, -⟩ := handed session same
  exact ⟨⟨valid, rfl⟩, serving, fits, frame, sent, refused .data nofun, after, dispatched, kept⟩

end ModemLink
