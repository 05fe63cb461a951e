import ModemLink.Proofs.Dispatch.Fate
import ModemLink.Proofs.FlowControl.RoundTrip
import ModemLink.Proofs.Frame.Splitting

/-!
# What the peer sends is delivered

The peer puts each item into a frame, transfers bring these frames, one or more at a time, and the
dispatch loop steps until the read queue is empty (`Session.Drained`). The layer above is then told
of every item in order, and the statistics hold what it was told (`drained_delivers`).
-/

namespace ModemLink

/-- What the peer sends on one of the two channels. -/
inductive Item where
  | data (payload : Bytes)
  | flow (message : FlowControl)
  deriving DecidableEq, Repr

namespace Item

def Sendable : Item → Prop
  | data payload => payload.length ≤ 0x7FFF
  | flow message => message.type ≤ 3

instance : DecidablePred Sendable
  | data payload => inferInstanceAs (Decidable (payload.length ≤ 0x7FFF))
  | flow message => inferInstanceAs (Decidable (message.type ≤ 3))

def encode (channels : Channels) : Item → Except CodecError Bytes
  | data payload => Frame.encode channels .data payload
  | flow message => Frame.encode channels .control message.encode

def payload? : Item → Option Bytes
  | data payload => some payload
  | flow _ => none

/-- What the layer above is told of it. -/
def notification? : Item → Option Notification
  | data payload => if payload = [] then none else some (.received payload)
  | flow message => some (.flowControl message.command)

def frame (channels : Channels) : Item → Bytes
  | data payload => Frame.framed channels.data payload
  | flow message => Frame.framed channels.control message.encode

def fate : Item → Fate
  | data payload => .ofPayload payload
  | flow message => .controlled message.encode

end Item

/-- The fate of a frame that carries the payload on the channel. -/
def Fate.carried : Channel → Bytes → Fate
  | .data, payload => .ofPayload payload
  | .control, payload => .controlled payload

/-- The multiplexer is on, and both channels have an address of their own. -/
structure MuxConfig.Usable (mux : MuxConfig) : Prop where
  enabled : mux.enabled = true
  distinct : mux.channels.control ≠ mux.channels.data
  control : 1 ≤ mux.channels.control ∧ mux.channels.control ≤ 63
  data : 1 ≤ mux.channels.data ∧ mux.channels.data ≤ 63

/-! ## Items and their frames -/

section Frames

variable {mux : MuxConfig} {item : Item} {items : List Item}

theorem dlci_ne_zero {dlci : UInt8} (positive : 1 ≤ dlci) : dlci ≠ 0 := by
  rintro rfl
  exact absurd positive (by decide)

theorem length_encode_le_maxPayload (message : FlowControl) :
    message.encode.length ≤ Frame.maxPayload := by
  rw [FlowControl.length_encode]
  decide

theorem encode_item (usable : mux.Usable) (sendable : item.Sendable) :
    item.encode mux.channels = .ok (item.frame mux.channels) := by
  cases item with
  | data payload => exact Frame.encode_ok usable.data.2 sendable
  | flow message => exact Frame.encode_ok usable.control.2 (length_encode_le_maxPayload message)

theorem mapM_encode (usable : mux.Usable) (sendable : ∀ item ∈ items, item.Sendable) :
    items.mapM (Item.encode mux.channels) = .ok (items.map (Item.frame mux.channels)) := by
  induction items with
  | nil => rfl
  | cons item items ih =>
      rw [List.mapM_cons, encode_item usable (sendable item List.mem_cons_self),
        ih fun later member => sendable later (List.mem_cons_of_mem item member)]
      rfl

theorem frame_whole (channels : Channels) (sendable : item.Sendable) :
    item.frame channels ≠ [] ∧ ∀ rest,
      Frame.frameLength? (item.frame channels ++ rest) = some (item.frame channels).length := by
  cases item with
  | data payload => exact ⟨Frame.framed_ne_nil, Frame.frameLength?_framed_append sendable⟩
  | flow message =>
      exact ⟨Frame.framed_ne_nil,
        Frame.frameLength?_framed_append (length_encode_le_maxPayload message)⟩

section Addresses

variable {channel other : Channel} {payload : Bytes}

theorem MuxConfig.Usable.address (usable : mux.Usable) (channel : Channel) :
    mux.channels.dlci channel ≠ 0 ∧ mux.channels.dlci channel ≤ Frame.maxDlci := by
  cases channel with
  | data => exact ⟨dlci_ne_zero usable.data.1, usable.data.2⟩
  | control => exact ⟨dlci_ne_zero usable.control.1, usable.control.2⟩

theorem MuxConfig.Usable.apart (usable : mux.Usable) (differs : other ≠ channel) :
    mux.channels.dlci other ≠ mux.channels.dlci channel := by
  cases channel <;> cases other
  · exact absurd rfl differs
  · exact usable.distinct.symm
  · exact usable.distinct
  · exact absurd rfl differs

theorem decode_own (usable : mux.Usable) (fits : payload.length ≤ Frame.maxPayload) :
    Frame.decode mux.channels channel true (Frame.framed (mux.channels.dlci channel) payload) =
      .payload (mux.channels.dlci channel) payload := by
  obtain ⟨present, small⟩ := usable.address channel
  rw [← List.append_nil (Frame.framed _ _)]
  exact Frame.decode_framed_append rfl present small fits []

theorem decode_other (usable : mux.Usable) (differs : other ≠ channel)
    (fits : payload.length ≤ Frame.maxPayload) :
    Frame.decode mux.channels other true (Frame.framed (mux.channels.dlci channel) payload) =
      .dropped (.dlciMismatch (mux.channels.dlci other) (mux.channels.dlci channel)) := by
  obtain ⟨present, small⟩ := usable.address channel
  rw [← List.append_nil (Frame.framed _ _)]
  exact Frame.decode_framed_mismatch (usable.apart differs) present small fits []

/-- Each channel takes its own frames, whatever they carry. -/
theorem fate_framed (usable : mux.Usable) (channel : Channel)
    (fits : payload.length ≤ Frame.maxPayload) :
    fate mux (Frame.framed (mux.channels.dlci channel) payload) = .carried channel payload := by
  cases channel with
  | data => simp only [fate, usable.enabled, decode_own usable fits, Fate.carried]
  | control =>
      have found : mux.channels.dlci .control = mux.channels.control := rfl
      have refused := decode_other usable (show Channel.data ≠ .control from nofun) fits
      have accepted : Frame.decode mux.channels .control true _ = _ := decode_own usable fits
      rw [found] at refused accepted ⊢
      simp only [fate, usable.enabled, refused, if_true, Fate.ofControl, accepted, Fate.carried]

end Addresses

theorem fate_frame (usable : mux.Usable) (sendable : item.Sendable) :
    fate mux (item.frame mux.channels) = item.fate := by
  cases item with
  | data payload => exact fate_framed usable .data sendable
  | flow message => exact fate_framed usable .control (length_encode_le_maxPayload message)

theorem flatMap_pieces (enabled : mux.enabled = true) {groups : List (List Bytes)}
    (present : [] ∉ groups) (whole : ∀ frame ∈ groups.flatten, frame ≠ [] ∧
      ∀ rest, Frame.frameLength? (frame ++ rest) = some frame.length) :
    (groups.map List.flatten).flatMap (Session.pieces mux) = groups.flatten := by
  induction groups with
  | nil => rfl
  | cons group groups ih =>
      simp only [List.flatten_cons, List.mem_append] at whole
      rw [List.mem_cons, not_or] at present
      have first : Session.pieces mux group.flatten = group := by
        unfold Session.pieces
        rw [if_pos enabled]
        exact Frame.split_flatten (Ne.symm present.1) fun frame member => whole frame (.inl member)
      rw [List.map_cons, List.flatMap_cons, first, List.flatten_cons,
        ih present.2 fun frame member => whole frame (.inr member)]

end Frames

namespace Session

variable {η : Type}

/-! ## Draining the read queue -/

/-- The dispatch loop has stepped until nothing was left to dispatch. -/
inductive Drained : Session η → Session η → Prop
  | idle {before after : Session η} (step : dispatchStep.exec before = (.ok .idle, after)) :
      Drained before after
  | busy {before next after : Session η} (step : dispatchStep.exec before = (.ok .busy, next))
      (later : Drained next after) : Drained before after

theorem Drained.unique {before after other : Session η} (drained : before.Drained after)
    (also : before.Drained other) : other = after := by
  induction drained with
  | idle step =>
      cases also with
      | idle step' =>
          rw [step] at step'
          exact (Prod.mk.inj step').2.symm
      | busy step' _ =>
          rw [step] at step'
          cases step'
  | busy step _ ih =>
      cases also with
      | idle step' =>
          rw [step] at step'
          cases step'
      | busy step' later =>
          rw [step] at step'
          obtain rfl := (Prod.mk.inj step').2
          exact ih later

def withRead (session : Session η) (read : List Bytes) : Session η :=
  { session with
    device := { session.device with queues := { session.device.queues with read } } }

theorem befall_withRead (channels : Channels) (session : Session η) (read : List Bytes)
    (fate : Fate) :
    (session.withRead read).befall channels fate = (session.befall channels fate).withRead read := by
  cases fate with
  | indicated | silent | dropped => rfl
  | controlled data =>
      simp only [befall]
      cases FlowControl.decode data with
      | ok message => rfl
      | error e => rfl

theorem foldl_befall_withRead (channels : Channels) (session : Session η) (read : List Bytes)
    (fates : List Fate) :
    fates.foldl (befall channels) (session.withRead read) =
      (fates.foldl (befall channels) session).withRead read :=
  List.foldl_hom (fun session => session.withRead read) fun session fate =>
    befall_withRead channels session read fate

theorem mux_befall (channels : Channels) (session : Session η) (fate : Fate) :
    (session.befall channels fate).device.mux = session.device.mux := by
  cases fate with
  | indicated | silent | dropped => rfl
  | controlled data =>
      simp only [befall]
      cases FlowControl.decode data with
      | ok message => rfl
      | error e => rfl

theorem mux_foldl_befall (channels : Channels) (session : Session η) (fates : List Fate) :
    (fates.foldl (befall channels) session).device.mux = session.device.mux := by
  induction fates generalizing session with
  | nil => rfl
  | cons fate fates ih => rw [List.foldl_cons, ih, mux_befall]

theorem exec_dispatchStep_nil {session : Session η} (empty : session.device.queues.read = []) :
    dispatchStep.exec session = (.ok .idle, session) := by
  unfold dispatchStep
  rw [Act.exec_bind_ok (Act.exec_device session)]
  simp only [Queues.popRead, empty, List.head?_nil, Act.exec_pure]

theorem exec_dispatchStep_cons {session : Session η} {buffer : Bytes} {rest : List Bytes}
    (queued : session.device.queues.read = buffer :: rest) :
    dispatchStep.exec session = (.ok .busy,
      ((pieces session.device.mux buffer).map (fate session.device.mux)).foldl
        (befall session.device.mux.channels) (session.withRead rest)) := by
  unfold dispatchStep
  rw [Act.exec_bind_ok (Act.exec_device session)]
  simp only [Queues.popRead, queued, List.head?_cons, List.tail_cons, Act.onQueues]
  rw [Act.exec_bind_ok (Act.exec_onDevice _ session),
    Act.exec_bind_ok (exec_dispatchBuffer buffer _), Act.exec_pure]
  rfl

/-- Whatever has been read, the loop dispatches all of it and then falls idle. -/
theorem drained_foldl (session : Session η) (read : List Bytes) :
    (session.withRead read).Drained
      (((read.flatMap (pieces session.device.mux)).map (fate session.device.mux)).foldl
        (befall session.device.mux.channels) (session.withRead [])) := by
  induction read generalizing session with
  | nil => exact .idle (exec_dispatchStep_nil rfl)
  | cons buffer rest ih =>
      refine .busy (exec_dispatchStep_cons rfl) ?_
      have later := ih (((pieces session.device.mux buffer).map (fate session.device.mux)).foldl
        (befall session.device.mux.channels) session)
      rw [mux_foldl_befall, ← foldl_befall_withRead, ← foldl_befall_withRead,
        ← List.foldl_append, ← List.map_append] at later
      exact later

/-! ## What is told of items -/

/-- All that has been told and counted on the way from `before` to `after` is what these items
call for. -/
structure Told (before : Session η) (items : List Item) (after : Session η) : Prop where
  trace : after.trace.toList =
    before.trace.toList ++ (items.filterMap Item.notification?).map .notify
  droppedFrames : after.device.stats.droppedFrames = before.device.stats.droppedFrames
  rxBytes : after.device.stats.rxBytes =
    before.device.stats.rxBytes + ((items.filterMap Item.payload?).map List.length).sum
  rxTotal : after.device.stats.rx.total =
    before.device.stats.rx.total + ((items.filterMap Item.payload?).filter (· ≠ [])).length

variable {before next after : Session η} {items later : List Item}

theorem told_nil (session : Session η) : session.Told [] session where
  trace := (List.append_nil _).symm
  droppedFrames := rfl
  rxBytes := rfl
  rxTotal := rfl

theorem Told.append (told : before.Told items next) (rest : next.Told later after) :
    before.Told (items ++ later) after where
  trace := by
    rw [rest.trace, told.trace, List.filterMap_append, List.map_append, List.append_assoc]
  droppedFrames := rest.droppedFrames.trans told.droppedFrames
  rxBytes := by
    rw [rest.rxBytes, told.rxBytes, List.filterMap_append, List.map_append, List.sum_append,
      Nat.add_assoc]
  rxTotal := by
    rw [rest.rxTotal, told.rxTotal, List.filterMap_append, List.filter_append, List.length_append,
      Nat.add_assoc]

theorem told_befall (channels : Channels) (session : Session η) {item : Item}
    (sendable : item.Sendable) : session.Told [item] (session.befall channels item.fate) := by
  cases item with
  | data payload =>
      cases payload with
      | nil => exact ⟨(List.append_nil _).symm, rfl, rfl, rfl⟩
      | cons octet payload =>
          refine ⟨Array.toList_push, rfl, rfl, ?_⟩
          exact SizeHistogram.total_record _ _
  | flow message =>
      have read : FlowControl.decode message.encode = .ok message := by
        simpa using FlowControl.decode_encode_append sendable []
      simp only [Item.fate, befall, read]
      exact ⟨Array.toList_push, rfl, rfl, rfl⟩

theorem told_foldl (channels : Channels) (sendable : ∀ item ∈ items, item.Sendable)
    (session : Session η) :
    session.Told items ((items.map Item.fate).foldl (befall channels) session) := by
  induction items generalizing session with
  | nil => exact told_nil session
  | cons item items ih =>
      have first := told_befall channels session (sendable item List.mem_cons_self)
      exact first.append
        (ih (fun later member => sendable later (List.mem_cons_of_mem item member)) _)

end Session

/-- Every list of items can be framed, and in whatever transfers its frames arrive, the dispatch
loop ends with an empty read queue: the layer above has been told of exactly these items in order,
nothing has been dropped, and the payloads are counted. -/
theorem drained_delivers {η : Type} {mux : MuxConfig} (usable : mux.Usable) {items : List Item}
    (sendable : ∀ item ∈ items, item.Sendable) :
    ∃ frames, items.mapM (Item.encode mux.channels) = .ok frames ∧
      ∀ groups : List (List Bytes), groups.flatten = frames → [] ∉ groups →
        ∀ session : Session η, session.device.mux = mux →
          session.device.queues.read = groups.map List.flatten →
          ∃ after, (∀ other, session.Drained other ↔ other = after) ∧
            after.device.queues.read = [] ∧ session.Told items after := by
  refine ⟨_, mapM_encode usable sendable, ?_⟩
  rintro groups grouping present session rfl queued
  have whole : ∀ frame ∈ groups.flatten, frame ≠ [] ∧
      ∀ rest, Frame.frameLength? (frame ++ rest) = some frame.length := by
    rw [grouping, List.forall_mem_map]
    exact fun item member => frame_whole session.device.mux.channels (sendable item member)
  have fates : ((session.device.queues.read.flatMap (Session.pieces session.device.mux)).map
      (fate session.device.mux)) = items.map Item.fate := by
    rw [queued, flatMap_pieces usable.enabled present whole, grouping, List.map_map]
    exact List.map_congr_left fun item member => fate_frame usable (sendable item member)
  have drained : session.Drained _ :=
    Session.drained_foldl session session.device.queues.read
  have told := Session.told_foldl session.device.mux.channels sendable (session.withRead [])
  rw [fates] at drained
  refine ⟨_, ?_, ?_, ⟨told.trace, told.droppedFrames, told.rxBytes, told.rxTotal⟩⟩
  · intro other
    constructor
    · exact drained.unique
    · rintro rfl
      exact drained
  · rw [Session.foldl_befall_withRead]
    rfl

/-- A payload and an empty one in one transfer, a request to pause in the next. -/
theorem drained_delivers_two_transfers :
    let mux : MuxConfig := { enabled := true }
    let pause : FlowControl :=
      { muxId := 0, command := .pause, transaction := 42, type := 0, sequence := 0, qos := 0 }
    let items := [Item.data [0x45, 0x46], .data [], .flow pause]
    let groups : List (List Bytes) :=
      [[[0xF9, 0x09, 0xEF, 0x05, 0x45, 0x46, 0xD6, 0xF9], [0xF9, 0x09, 0xEF, 0x01, 0xD1, 0xF9]],
        [[0xF9, 0x05, 0xEF, 0x29] ++ pause.encode ++ [0x60, 0xF9]]]
    let session := (Session.create ⟨0, 0, 0⟩ () {} { mux }).withRead (groups.map List.flatten)
    mux.Usable ∧ (∀ item ∈ items, item.Sendable) ∧
      items.mapM (Item.encode mux.channels) = .ok groups.flatten ∧ [] ∉ groups ∧
      ∃ after, (∀ other, session.Drained other ↔ other = after) ∧
        after.device.queues.read = [] ∧ session.Told items after := by
  intro mux pause items groups session
  have usable : mux.Usable := by
    refine ⟨rfl, ?_, ?_, ?_⟩ <;> decide
  have sendable : ∀ item ∈ items, item.Sendable := by decide
  have encoded : items.mapM (Item.encode mux.channels) = .ok groups.flatten := by decide
  have present : [] ∉ groups := by decide
  obtain ⟨frames, framed, delivered⟩ := drained_delivers usable sendable
  obtain rfl : groups.flatten = frames := Except.ok.inj (encoded.symm.trans framed)
  exact ⟨usable, sendable, encoded, present, delivered groups rfl present session rfl rfl⟩

end ModemLink
