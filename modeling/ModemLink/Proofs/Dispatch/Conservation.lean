import ModemLink.Proofs.Dispatch.Fate
import ModemLink.Proofs.Frame.Splitting

/-!
# Nothing is lost in dispatch

Whatever a transfer holds, it is cut into segments that make it up, and each segment has exactly one
of the four fates (`Fate.Befits`). `Dispatched` follows the session from segment to segment; the
statistics and the payloads told to the layer above are the sums over these fates
(`dispatchBuffer_conserves`).
-/

namespace ModemLink

def Event.indication? : Event → Option Bytes
  | .notify (.received payload) => some payload
  | _ => none

def Session.indications {η : Type} (session : Session η) : List Bytes :=
  session.trace.toList.filterMap Event.indication?

namespace Fate

def payload? : Fate → Option Bytes
  | indicated payload => some payload
  | silent | dropped | controlled _ => none

variable {η : Type}

/-- A segment has this fate: what it must be for that, and all that has changed by it. -/
def Befits (mux : MuxConfig) (segment : Bytes) (before after : Session η) : Fate → Prop
  | indicated payload => payload ≠ [] ∧ payload <:+: segment ∧ after = before.indicate payload
  | silent =>
      (segment = [] ∨ (Frame.decode mux.channels .data mux.enabled segment).data? = some []) ∧
      after = before
  | dropped => after = before.countDrop
  | controlled data =>
      Frame.decode mux.channels .data mux.enabled segment =
        .dropped (.dlciMismatch mux.channels.data mux.channels.control) ∧
      Frame.decode mux.channels .control true segment = .payload mux.channels.control data ∧
      after.device.stats = before.device.stats ∧ after.indications = before.indications

end Fate

/-- Segments dispatched one after the other, each with the one fate that befits it. -/
inductive Dispatched {η : Type} (mux : MuxConfig) :
    Session η → List (Bytes × Fate) → Session η → Prop
  | nil (session : Session η) : Dispatched mux session [] session
  | cons {before next after : Session η} {segment : Bytes} {fate : Fate}
      {rest : List (Bytes × Fate)}
      (step : (Session.dispatchFrame mux segment).exec before = (.ok (), next))
      (unique : ∀ other : Fate, other.Befits mux segment before next ↔ other = fate)
      (later : Dispatched mux next rest after) :
      Dispatched mux before ((segment, fate) :: rest) after

variable {η : Type} {mux : MuxConfig} {segment : Bytes} {before after : Session η}

/-! ## One segment -/

theorem indications_indicate (session : Session η) (payload : Bytes) :
    (session.indicate payload).indications = session.indications ++ [payload] := by
  simp [Session.indications, Session.indicate, Event.indication?]

theorem indications_obeyed (session : Session η) (channels : Channels) (message : FlowControl) :
    (session.obeyed channels message).indications = session.indications := by
  simp [Session.indications, Session.obeyed, Event.indication?]

namespace Fate.Befits

theorem indications {fate : Fate} (befits : fate.Befits mux segment before after) :
    after.indications = before.indications ++ fate.payload?.toList := by
  cases fate with
  | indicated payload =>
      obtain ⟨-, -, rfl⟩ := befits
      exact indications_indicate before payload
  | silent =>
      obtain ⟨-, rfl⟩ := befits
      exact (List.append_nil _).symm
  | dropped =>
      obtain rfl := befits
      exact (List.append_nil _).symm
  | controlled data =>
      obtain ⟨-, -, -, same⟩ := befits
      rw [same]
      exact (List.append_nil _).symm

theorem droppedFrames {fate : Fate} (befits : fate.Befits mux segment before after) :
    after.device.stats.droppedFrames =
      before.device.stats.droppedFrames + [fate].count .dropped := by
  cases fate with
  | indicated payload => obtain ⟨-, -, rfl⟩ := befits; rfl
  | silent => obtain ⟨-, rfl⟩ := befits; rfl
  | dropped => obtain rfl := befits; rfl
  | controlled data => obtain ⟨-, -, same, -⟩ := befits; rw [same]; rfl

theorem rxBytes {fate : Fate} (befits : fate.Befits mux segment before after) :
    after.device.stats.rxBytes =
      before.device.stats.rxBytes + (fate.payload?.toList.map List.length).sum := by
  cases fate with
  | indicated payload => obtain ⟨-, -, rfl⟩ := befits; rfl
  | silent => obtain ⟨-, rfl⟩ := befits; rfl
  | dropped => obtain rfl := befits; rfl
  | controlled data => obtain ⟨-, -, same, -⟩ := befits; rw [same]; rfl

theorem rxTotal {fate : Fate} (befits : fate.Befits mux segment before after) :
    after.device.stats.rx.total =
      before.device.stats.rx.total + fate.payload?.toList.length := by
  cases fate with
  | indicated payload =>
      obtain ⟨-, -, rfl⟩ := befits
      exact SizeHistogram.total_record _ _
  | silent => obtain ⟨-, rfl⟩ := befits; rfl
  | dropped => obtain rfl := befits; rfl
  | controlled data => obtain ⟨-, -, same, -⟩ := befits; rw [same]; rfl

theorem sublist_payload {fate : Fate} (befits : fate.Befits mux segment before after) :
    fate.payload?.toList.flatten.Sublist segment := by
  cases fate with
  | indicated payload => simpa [payload?] using befits.2.1.sublist
  | silent | dropped | controlled => exact List.nil_sublist segment

theorem not_silent_of_controlled {data : Bytes}
    (controlled : (Fate.controlled data).Befits mux segment before after) :
    ¬ Fate.silent.Befits mux segment before after := by
  rintro ⟨rfl | empty, -⟩
  · have dropped := controlled.1
    unfold Frame.decode at dropped
    split at dropped <;> cases dropped
  · rw [controlled.1] at empty
    cases empty

/-- No segment has two fates: the payloads told and the drops counted tell the first three apart,
the decoder the last one. -/
theorem unique {fate other : Fate} (befits : fate.Befits mux segment before after)
    (also : other.Befits mux segment before after) : other = fate := by
  have payloads : fate.payload?.toList = other.payload?.toList :=
    List.append_cancel_left (befits.indications.symm.trans also.indications)
  have drops : [fate].count .dropped = [other].count .dropped :=
    Nat.add_left_cancel (befits.droppedFrames.symm.trans also.droppedFrames)
  cases fate with
  | indicated payload =>
      cases other with
      | indicated => rw [List.singleton_inj.mp payloads]
      | silent | dropped | controlled => cases payloads
  | silent =>
      cases other with
      | silent => rfl
      | indicated => cases payloads
      | dropped => cases drops
      | controlled => exact absurd befits also.not_silent_of_controlled
  | dropped =>
      cases other with
      | dropped => rfl
      | indicated => cases payloads
      | silent | controlled => cases drops
  | controlled data =>
      cases other with
      | indicated => cases payloads
      | silent => exact absurd also befits.not_silent_of_controlled
      | dropped => cases drops
      | controlled data' =>
          have same := also.2.1
          rw [befits.2.1] at same
          rw [(Decoded.payload.inj same).2]

end Fate.Befits

/-! ## The fate of a segment befits it -/

theorem infix_of_decode {channels : Channels} {channel : Channel} {enabled : Bool}
    {segment data : Bytes}
    (decoded : (Frame.decode channels channel enabled segment).data? = some data) :
    data <:+: segment := by
  cases enabled with
  | false =>
      obtain rfl : segment = data := Option.some.inj decoded
      exact List.infix_refl segment
  | true =>
      rcases Frame.decode_cases channels channel segment with
        ⟨dlci, inner, outcome⟩ | outcome | ⟨reason, outcome, -⟩
      · rw [outcome] at decoded
        obtain rfl := Option.some.inj decoded
        obtain ⟨address, control, field, fcs, rest, rfl, -⟩ :=
          Frame.decode_eq_payload_iff.mp outcome
        exact ⟨Frame.flag :: address :: control :: field, fcs :: rest, by simp⟩
      · rw [outcome] at decoded
        cases decoded
      · rw [outcome] at decoded
        cases decoded

theorem expected_of_dlciMismatch {channels : Channels} {channel : Channel} {enabled : Bool}
    {expected found : UInt8}
    (mismatch : Frame.decode channels channel enabled segment =
      .dropped (.dlciMismatch expected found)) :
    expected = channels.dlci channel := by
  cases enabled with
  | false => cases mismatch
  | true =>
      rcases Frame.decode_cases channels channel segment with
        ⟨dlci, data, outcome⟩ | outcome | ⟨reason, outcome, against⟩
      · rw [outcome] at mismatch
        cases mismatch
      · rw [outcome] at mismatch
        cases mismatch
      · rw [outcome] at mismatch
        exact against expected found (Decoded.dropped.inj mismatch)

theorem befits_ofPayload {payload : Bytes} (inside : payload <:+: segment)
    (empty : payload = [] → segment = [] ∨
      (Frame.decode mux.channels .data mux.enabled segment).data? = some []) :
    (Fate.ofPayload payload).Befits mux segment before
      (before.befall mux.channels (.ofPayload payload)) := by
  unfold Fate.ofPayload
  split
  · rename_i none
    exact ⟨empty none, rfl⟩
  · rename_i present
    exact ⟨present, inside, rfl⟩

theorem befits_ofControl
    (mismatch : Frame.decode mux.channels .data mux.enabled segment =
      .dropped (.dlciMismatch mux.channels.data mux.channels.control)) :
    (Fate.ofControl mux.channels segment).Befits mux segment before
      (before.befall mux.channels (.ofControl mux.channels segment)) := by
  unfold Fate.ofControl
  cases outcome : Frame.decode mux.channels .control true segment with
  | payload dlci data =>
      obtain ⟨_, _, _, _, _, -, -, rfl, -⟩ := Frame.decode_eq_payload_iff.mp outcome
      refine ⟨mismatch, outcome, ?_⟩
      simp only [Session.befall]
      cases FlowControl.decode data with
      | ok message => exact ⟨rfl, indications_obeyed before mux.channels message⟩
      | error e => exact ⟨rfl, rfl⟩
  | passthrough | notAFrame | dropped => rfl

theorem befits_fate (mux : MuxConfig) (segment : Bytes) (before : Session η) :
    (fate mux segment).Befits mux segment before
      (before.befall mux.channels (fate mux segment)) := by
  unfold fate
  cases outcome : Frame.decode mux.channels .data mux.enabled segment with
  | passthrough data | payload dlci data =>
      have known : (Frame.decode mux.channels .data mux.enabled segment).data? = some data := by
        rw [outcome]
        rfl
      exact befits_ofPayload (infix_of_decode known) fun none => .inr (none ▸ known)
  | notAFrame length => exact befits_ofPayload (List.infix_refl segment) .inl
  | dropped reason =>
      cases reason with
      | dlciMismatch expected found =>
          obtain rfl := expected_of_dlciMismatch outcome
          by_cases control : found = mux.channels.control
          · subst control
            simp only [if_true]
            exact befits_ofControl outcome
          · simp only [control, if_false]
            rfl
      | controlChannel | truncated | fcsMismatch => rfl

/-! ## All segments -/

theorem dispatched_map (mux : MuxConfig) (segments : List Bytes) (session : Session η) :
    Dispatched mux session (segments.map fun segment => (segment, fate mux segment))
      ((segments.map (fate mux)).foldl (Session.befall mux.channels) session) := by
  induction segments generalizing session with
  | nil => exact .nil session
  | cons segment segments ih =>
      have befits := befits_fate mux segment session
      refine .cons (Session.exec_dispatchFrame mux segment session) ?_ (ih _)
      intro other
      constructor
      · exact befits.unique
      · rintro rfl
        exact befits

namespace Dispatched

variable {steps : List (Bytes × Fate)}

theorem indications (run : Dispatched mux before steps after) :
    after.indications = before.indications ++ steps.filterMap fun step => step.2.payload? := by
  induction run with
  | nil => exact (List.append_nil _).symm
  | @cons _ _ _ _ fate _ _ unique _ ih =>
      rw [ih, ((unique fate).mpr rfl).indications, List.append_assoc]
      cases payload : fate.payload? with
      | none => simp [payload]
      | some payload => simp [payload]

theorem rxBytes (run : Dispatched mux before steps after) :
    after.device.stats.rxBytes = before.device.stats.rxBytes +
      (steps.filterMap fun step => step.2.payload?).flatten.length := by
  induction run with
  | nil => rfl
  | @cons _ _ _ _ fate _ _ unique _ ih =>
      rw [ih, ((unique fate).mpr rfl).rxBytes]
      cases payload : fate.payload? with
      | none => simp [payload]
      | some payload => simp [payload, Nat.add_assoc]

theorem rxTotal (run : Dispatched mux before steps after) :
    after.device.stats.rx.total = before.device.stats.rx.total +
      (steps.filterMap fun step => step.2.payload?).length := by
  induction run with
  | nil => rfl
  | @cons _ _ _ _ fate _ _ unique _ ih =>
      rw [ih, ((unique fate).mpr rfl).rxTotal]
      cases payload : fate.payload? with
      | none => simp [payload]
      | some payload => simp [payload, Nat.add_assoc, Nat.add_comm 1]

theorem droppedFrames (run : Dispatched mux before steps after) :
    after.device.stats.droppedFrames = before.device.stats.droppedFrames +
      (steps.map Prod.snd).count .dropped := by
  induction run with
  | nil => rfl
  | @cons _ _ _ _ fate rest _ unique _ ih =>
      rw [ih, ((unique fate).mpr rfl).droppedFrames, Nat.add_assoc, List.map_cons,
        ← List.count_append, List.singleton_append]

theorem sublist (run : Dispatched mux before steps after) :
    (steps.filterMap fun step => step.2.payload?).flatten.Sublist
      (steps.map Prod.fst).flatten := by
  induction run with
  | nil => exact List.Sublist.refl []
  | @cons _ _ _ segment fate _ _ unique _ ih =>
      have inside := ((unique fate).mpr rfl).sublist_payload
      rw [List.map_cons, List.flatten_cons]
      cases payload : fate.payload? with
      | none => simpa [payload] using ih.trans (List.sublist_append_right segment _)
      | some payload =>
          rw [payload] at inside
          simpa [payload] using List.Sublist.append inside ih

end Dispatched

theorem pieces_flatten (mux : MuxConfig) (buffer : Bytes) :
    (Session.pieces mux buffer).flatten = buffer := by
  unfold Session.pieces
  split
  · exact Frame.flatten_split buffer
  · simp

theorem frameLength?_of_mem_dropLast_pieces {buffer : Bytes}
    (early : segment ∈ (Session.pieces mux buffer).dropLast) :
    Frame.frameLength? segment = some segment.length := by
  unfold Session.pieces at early
  split at early
  · exact Frame.frameLength?_of_mem_dropLast_split early
  · cases early

/-- Dispatching any transfer ends without failure. The segments make up the transfer, each before
the last as long as its header says, and each has one fate. What is told to the layer above and what
is counted are the sums over the fates, and no octet is told that did not come in. -/
theorem dispatchBuffer_conserves (session : Session η) (buffer : Bytes) :
    ∃ (steps : List (Bytes × Fate)) (after : Session η),
      (Session.dispatchBuffer buffer).exec session = (.ok (), after) ∧
      Dispatched session.device.mux session steps after ∧
      (steps.map Prod.fst).flatten = buffer ∧
      (∀ segment ∈ (steps.map Prod.fst).dropLast,
        Frame.frameLength? segment = some segment.length) ∧
      let indicated := steps.filterMap fun step => step.2.payload?
      after.indications = session.indications ++ indicated ∧
      after.device.stats.rxBytes = session.device.stats.rxBytes + indicated.flatten.length ∧
      after.device.stats.rx.total = session.device.stats.rx.total + indicated.length ∧
      after.device.stats.droppedFrames =
        session.device.stats.droppedFrames + (steps.map Prod.snd).count .dropped ∧
      indicated.flatten.Sublist buffer ∧
      indicated.flatten.length ≤ buffer.length := by
  have run := dispatched_map session.device.mux (Session.pieces session.device.mux buffer) session
  have segments : ((Session.pieces session.device.mux buffer).map fun segment =>
      (segment, fate session.device.mux segment)).map Prod.fst =
        Session.pieces session.device.mux buffer := by
    simp [Function.comp_def]
  have inside := run.sublist
  rw [segments, pieces_flatten] at inside
  refine ⟨_, _, Session.exec_dispatchBuffer buffer session, run, ?_, ?_, run.indications,
    run.rxBytes, run.rxTotal, run.droppedFrames, inside, inside.length_le⟩
  · rw [segments, pieces_flatten]
  · rw [segments]
    intro segment early
    exact frameLength?_of_mem_dropLast_pieces early

end ModemLink
