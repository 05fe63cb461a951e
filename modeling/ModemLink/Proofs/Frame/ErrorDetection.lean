import ModemLink.Proofs.Fcs.Residue
import ModemLink.Proofs.Frame.RoundTrip

/-!
# Errors that the check octet detects

Two buffers of one shape whose checked octets differ in a burst or in an odd number of bits get
different check octets. The check octet of an encoded frame covers its address and its control
octet, so that the frame is not accepted after a change of one of the three. A control octet of `ui`
frames is the exception: it says that the payload is covered as well.
-/

namespace ModemLink.Frame

open Fcs (Burst differences)

/-! ## Check octets -/

theorem length_covered {kind : FrameKind} {first second octets others : Bytes}
    (lengths : first.length = second.length)
    (headers : Fcs.headerLength first = Fcs.headerLength second)
    (covered : Fcs.covered kind first = .ok octets)
    (covered' : Fcs.covered kind second = .ok others) : octets.length = others.length := by
  rw [Fcs.covered, headers] at covered
  rw [Fcs.covered] at covered'
  cases read : Fcs.headerLength second with
  | error e =>
      rw [read] at covered
      cases covered
  | ok header =>
      rw [read] at covered covered'
      cases covered
      cases covered'
      cases kind with
      | ui => exact lengths
      | control | uih => simp only [List.length_take, lengths]

theorem compute_covered {kind : FrameKind} {buffer octets : Bytes}
    (covered : Fcs.covered kind buffer = .ok octets) :
    Fcs.compute kind buffer = .ok (0xFF - Fcs.remainder octets) := by
  rw [Fcs.compute, covered]
  rfl

theorem compute_ne {kind : FrameKind} {first second octets others : Bytes}
    (lengths : first.length = second.length)
    (headers : Fcs.headerLength first = Fcs.headerLength second)
    (covered : Fcs.covered kind first = .ok octets)
    (covered' : Fcs.covered kind second = .ok others) (different : octets ≠ others)
    (few : Burst (differences octets others) ∨ Odd ((differences octets others).count true)) :
    ∃ fcs other, Fcs.compute kind first = .ok fcs ∧ Fcs.compute kind second = .ok other ∧
      fcs ≠ other := by
  refine ⟨_, _, compute_covered covered, compute_covered covered', fun same => ?_⟩
  exact Fcs.remainder_ne (length_covered lengths headers covered covered') different few
    ((UInt8.sub_right_inj _).mp same)

/-- A change of one octet of a header changes its check octet. -/
theorem checkOctet_ne {control other : UInt8} (header : control &&& 0xEF ≠ 0x03)
    (header' : other &&& 0xEF ≠ 0x03) (before : Bytes) {octet octet' : UInt8}
    (different : octet ≠ octet') (behind data : Bytes) :
    checkOctet control (before ++ octet :: behind) data ≠
      checkOctet other (before ++ octet' :: behind) data := by
  rw [checkOctet, checkOctet, checkedOctets, checkedOctets, if_neg header, if_neg header']
  intro same
  have burst := Fcs.burst_differences_octet before octet octet' behind
  exact Fcs.remainder_ne (by simp) (by simpa using different) (.inl burst)
    ((UInt8.sub_right_inj _).mp same)

/-! ## Frames -/

/-- A frame whose check octet does not belong to its header is not accepted. -/
theorem decode_unfit {channels : Channels} {channel : Channel} {address control fcs : UInt8}
    {field payload : Bytes} (announced : Announces field payload.length)
    (unfit : checkOctet control (address :: control :: field) payload ≠ fcs) (rest : Bytes)
    (enabled : Bool) (dlci : UInt8) (data : Bytes) :
    decode channels channel enabled
      (flag :: address :: control :: (field ++ (payload ++ fcs :: rest))) ≠ .payload dlci data := by
  cases enabled with
  | false => simp [decode]
  | true =>
      rw [decode_flag, decodeBody_header announced, List.drop_left, List.take_left]
      simp only [if_neg unfit]
      split_ifs <;> simp

variable {channels : Channels} {channel : Channel} {payload : Bytes} {dlci octet : UInt8}

theorem framed_eq_cons : framed dlci payload =
    flag :: addressOctet dlci :: uihControl :: (lengthField payload.length ++ (payload ++
      checkOctet uihControl (addressOctet dlci :: uihControl :: lengthField payload.length)
        payload :: [flag])) :=
  (List.append_nil _).symm.trans (framed_append [])

theorem decode_address_altered (fits : payload.length ≤ maxPayload)
    (altered : (framed dlci payload)[1]? ≠ some octet) (enabled : Bool) (found : UInt8)
    (data : Bytes) :
    decode channels channel enabled ((framed dlci payload).set 1 octet) ≠ .payload found data := by
  rw [framed_eq_cons] at altered ⊢
  have different : octet ≠ addressOctet dlci := fun same => altered (by rw [same]; rfl)
  exact decode_unfit (announces_lengthField fits)
    (checkOctet_ne (by decide) (by decide) [] different _ _) _ enabled found data

theorem decode_control_altered (fits : payload.length ≤ maxPayload)
    (altered : (framed dlci payload)[2]? ≠ some octet) (header : octet &&& 0xEF ≠ 0x03)
    (enabled : Bool) (found : UInt8) (data : Bytes) :
    decode channels channel enabled ((framed dlci payload).set 2 octet) ≠ .payload found data := by
  rw [framed_eq_cons] at altered ⊢
  have different : octet ≠ uihControl := fun same => altered (by rw [same]; rfl)
  exact decode_unfit (announces_lengthField fits)
    (checkOctet_ne header (by decide) [addressOctet dlci] different _ _) _ enabled found data

theorem decode_check_altered (fits : payload.length ≤ maxPayload)
    (altered : (framed dlci payload)[(framed dlci payload).length - 2]? ≠ some octet)
    (enabled : Bool) (found : UInt8) (data : Bytes) :
    decode channels channel enabled
      ((framed dlci payload).set ((framed dlci payload).length - 2) octet) ≠
        .payload found data := by
  have position : (framed dlci payload).length - 2 =
      (flag :: header dlci payload.length ++ payload).length := by
    simp only [framed, List.length_append, List.length_cons, List.length_nil]
    omega
  have shape : framed dlci payload = flag :: header dlci payload.length ++ payload ++
      [checkOctet uihControl (header dlci payload.length) payload, flag] := rfl
  rw [position, shape, List.getElem?_append_right (Nat.le_refl _), Nat.sub_self] at altered
  rw [position, shape, List.set_append_right _ _ (Nat.le_refl _), Nat.sub_self]
  have different : checkOctet uihControl (header dlci payload.length) payload ≠ octet :=
    fun same => altered (by rw [same]; rfl)
  simpa [header] using decode_unfit (announces_lengthField fits) different [flag] enabled found data

theorem encode_framed {frame : Bytes} (encoded : encode channels channel payload = .ok frame) :
    payload.length ≤ maxPayload ∧ frame = framed (channels.dlci channel) payload := by
  rw [encode_eq] at encoded
  split_ifs at encoded with wide large
  exact ⟨Nat.not_lt.mp large, (Except.ok.inj encoded).symm⟩

/-! ## Detection -/

/-- The check sequence of two buffers of one shape is not the same if their checked octets differ
in a burst or in an odd number of bits. So no frame is accepted after a change of its address
octet, of its check octet, or of its control octet to any but that of a `ui` frame. -/
theorem check_sequence_detects_errors :
    (∀ (kind : FrameKind) (first second octets others : Bytes), first.length = second.length →
      Fcs.headerLength first = Fcs.headerLength second →
      Fcs.covered kind first = .ok octets → Fcs.covered kind second = .ok others →
      octets ≠ others →
      Burst (differences octets others) ∨ Odd ((differences octets others).count true) →
      ∃ fcs other, Fcs.compute kind first = .ok fcs ∧ Fcs.compute kind second = .ok other ∧
        fcs ≠ other) ∧
    ∀ (channels : Channels) (channel : Channel) (payload frame : Bytes),
      encode channels channel payload = .ok frame →
      ∀ (octet : UInt8) (enabled : Bool) (dlci : UInt8) (data : Bytes),
        (frame[1]? ≠ some octet →
          decode channels channel enabled (frame.set 1 octet) ≠ .payload dlci data) ∧
        (frame[frame.length - 2]? ≠ some octet →
          decode channels channel enabled (frame.set (frame.length - 2) octet) ≠
            .payload dlci data) ∧
        (frame[2]? ≠ some octet → octet &&& 0xEF ≠ 0x03 →
          decode channels channel enabled (frame.set 2 octet) ≠ .payload dlci data) := by
  constructor
  · intro kind first second octets others lengths headers covered covered' different few
    exact compute_ne lengths headers covered covered' different few
  · intro channels channel payload frame encoded octet enabled dlci data
    obtain ⟨fits, rfl⟩ := encode_framed encoded
    refine ⟨fun altered => ?_, fun altered => ?_, fun altered header => ?_⟩
    · exact decode_address_altered fits altered enabled dlci data
    · exact decode_check_altered fits altered enabled dlci data
    · exact decode_control_altered fits altered header enabled dlci data

/-- Three bits in an unnumbered frame; a broken extension bit of the address, a check octet that is
lost and a poll bit that is raised in a frame of the data channel. -/
theorem check_sequence_detects_errors_in_data_frame :
    (∃ fcs other, Fcs.compute .ui [5, 3, 7, 0, 0, 0] = .ok fcs ∧
      Fcs.compute .ui [4, 3, 7, 0, 0, 3] = .ok other ∧ fcs ≠ other) ∧
    ∃ frame, encode {} .data [1, 2, 3] = .ok frame ∧
      decode {} .data true (frame.set 1 0x08) ≠ .payload 2 [1, 2, 3] ∧
      decode {} .data true (frame.set (frame.length - 2) 0) ≠ .payload 2 [1, 2, 3] ∧
      decode {} .data true (frame.set 2 0xFF) ≠ .payload 2 [1, 2, 3] := by
  have odd : Odd ((differences [5, 3, 7, 0, 0, 0] [4, 3, 7, 0, 0, 3]).count true) := by
    decide
  have encoded : encode {} .data [1, 2, 3] = .ok (framed 2 [1, 2, 3]) :=
    encode_ok (by decide) (by decide)
  have detected := check_sequence_detects_errors.2 {} .data [1, 2, 3] _ encoded
  refine ⟨check_sequence_detects_errors.1 .ui _ _ _ _ rfl rfl rfl rfl (by decide) (.inr odd),
    _, encoded, ?_, ?_, ?_⟩
  · exact (detected 0x08 true 2 _).1 (by decide +kernel)
  · exact (detected 0 true 2 _).2.1 (by decide +kernel)
  · exact (detected 0xFF true 2 _).2.2 (by decide +kernel) (by decide)

end ModemLink.Frame
