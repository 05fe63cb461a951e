import ModemLink.Proofs.Frame.Decoding

/-!
# Encoding and decoding

`framed` spells the frame that `encode` gives for a DLCI and a payload that fit. Whatever follows
such a frame, it is decoded to its payload and knows its own length; cut before its check octet it
is truncated.
-/

namespace ModemLink.Frame

/-- Address, control octet, length field and payload between two flags, checked as `uih`. -/
def framed (dlci : UInt8) (payload : Bytes) : Bytes :=
  flag :: header dlci payload.length ++ payload ++
    [checkOctet uihControl (header dlci payload.length) payload, flag]

variable {dlci : UInt8} {payload : Bytes}

/-! ## Encoding -/

theorem compute_header (fits : payload.length ≤ maxPayload) :
    Fcs.compute .uih (header dlci payload.length) =
      .ok (checkOctet uihControl (header dlci payload.length) payload) := by
  have announced := announces_lengthField fits
  have length : Fcs.headerLength (header dlci payload.length) =
      .ok (2 + (lengthField payload.length).length) := by
    simpa [header] using headerLength_header announced []
  have whole : (header dlci payload.length).take (2 + (lengthField payload.length).length) =
      header dlci payload.length := List.take_of_length_le (by simp [header, Nat.add_comm 2])
  have checked : checkedOctets uihControl (header dlci payload.length) payload =
      header dlci payload.length := if_neg (by decide)
  simp only [Fcs.compute, Fcs.covered, length, Except.map, whole, checkOctet, checked]

theorem encode_eq (channels : Channels) (channel : Channel) (payload : Bytes) :
    encode channels channel payload =
      if channels.dlci channel > maxDlci then .error (.invalidDlci (channels.dlci channel))
      else if payload.length > maxPayload then
        .error (.frameTooLarge payload.length maxPayload)
      else .ok (framed (channels.dlci channel) payload) := by
  by_cases wide : channels.dlci channel > maxDlci
  · simp only [encode, wide, if_true]
  · by_cases large : payload.length > maxPayload
    · simp only [encode, wide, large, if_true, if_false]
    · simp only [encode, wide, large, if_false, compute_header (Nat.le_of_not_gt large),
        Except.map, framed]

theorem encode_ok {channels : Channels} {channel : Channel}
    (address : channels.dlci channel ≤ maxDlci) (fits : payload.length ≤ maxPayload) :
    encode channels channel payload = .ok (framed (channels.dlci channel) payload) := by
  rw [encode_eq, if_neg (UInt8.not_lt.mpr address), if_neg (Nat.not_lt.mpr fits)]

/-! ## The shape of a frame -/

theorem length_framed :
    (framed dlci payload).length = 5 + (lengthField payload.length).length + payload.length := by
  simp only [framed, header, List.length_append, List.length_cons, List.length_nil]
  omega

theorem framed_append (rest : Bytes) :
    framed dlci payload ++ rest =
      flag :: addressOctet dlci :: uihControl :: (lengthField payload.length ++ (payload ++
        checkOctet uihControl (addressOctet dlci :: uihControl :: lengthField payload.length)
          payload :: flag :: rest)) := by
  simp [framed, header]

theorem framed_ne_nil : framed dlci payload ≠ [] := by
  simp [framed]

/-! ## Decoding -/

theorem decode_flag {channels : Channels} {channel : Channel} (body : Bytes) :
    decode channels channel true (flag :: body) = decodeBody (channels.dlci channel) body := by
  simp [decode]

theorem decode_framed_append {channels : Channels} {channel : Channel}
    (address : channels.dlci channel = dlci) (present : dlci ≠ 0) (small : dlci ≤ maxDlci)
    (fits : payload.length ≤ maxPayload) (rest : Bytes) :
    decode channels channel true (framed dlci payload ++ rest) = .payload dlci payload := by
  rw [framed_append, decode_flag, decodeBody_eq_payload_iff]
  exact ⟨_, _, _, _, _, rfl, dlci_addressOctet small, address.symm, present,
    announces_lengthField fits, rfl⟩

theorem decode_framed_mismatch {channels : Channels} {channel : Channel}
    (address : channels.dlci channel ≠ dlci) (present : dlci ≠ 0) (small : dlci ≤ maxDlci)
    (fits : payload.length ≤ maxPayload) (rest : Bytes) :
    decode channels channel true (framed dlci payload ++ rest) =
      .dropped (.dlciMismatch (channels.dlci channel) dlci) := by
  rw [framed_append, decode_flag, decodeBody_header (announces_lengthField fits),
    dlci_addressOctet small, if_neg present, if_pos address.symm]

theorem frameLength?_flag {body : Bytes} {header : Nat}
    (read : Fcs.headerLength body = .ok header) :
    frameLength? (flag :: body) = some (1 + header + payloadLength body + 2) := by
  simp only [frameLength?, if_true, read]

theorem frameLength?_framed_append (fits : payload.length ≤ maxPayload) (rest : Bytes) :
    frameLength? (framed dlci payload ++ rest) = some (framed dlci payload).length := by
  have announced := announces_lengthField fits
  rw [framed_append, frameLength?_flag (headerLength_header announced _),
    payloadLength_header announced, length_framed]
  congr 1
  omega

theorem decode_framed_take {channels : Channels} {channel : Channel}
    (address : channels.dlci channel = dlci) (present : dlci ≠ 0) (small : dlci ≤ maxDlci)
    (fits : payload.length ≤ maxPayload) {n : Nat} (nonempty : 1 ≤ n)
    (cut : n ≤ (framed dlci payload).length - 2) :
    decode channels channel true ((framed dlci payload).take n) = .dropped .truncated := by
  have announced := announces_lengthField fits
  obtain ⟨m, rfl⟩ : ∃ m, n = m + 1 := ⟨n - 1, by omega⟩
  rw [length_framed] at cut
  have shape : framed dlci payload = _ := (List.append_nil _).symm.trans (framed_append [])
  rw [shape, List.take_succ_cons, decode_flag, address]
  exact decodeBody_take announced (dlci_addressOctet small) present _ (by omega)

/-! ## The round trip -/

theorem encode_error_iff (channels : Channels) (channel : Channel) (payload : Bytes)
    (e : CodecError) :
    encode channels channel payload = .error e ↔
      (63 < channels.dlci channel ∧ e = .invalidDlci (channels.dlci channel)) ∨
      (channels.dlci channel ≤ 63 ∧ 0x7FFF < payload.length ∧
        e = .frameTooLarge payload.length 0x7FFF) := by
  simp only [encode_eq, maxDlci, maxPayload, gt_iff_lt]
  by_cases wide : 63 < channels.dlci channel
  · rw [if_pos wide, Except.error.injEq]
    simp [wide, UInt8.not_le.mpr wide, eq_comm]
  · rw [if_neg wide]
    by_cases large : 0x7FFF < payload.length
    · rw [if_pos large, Except.error.injEq]
      simp [wide, large, UInt8.not_lt.mp wide, eq_comm]
    · rw [if_neg large]
      simp [wide, large]

/-- A payload and a DLCI that fit are framed so that the peer reads them back whatever follows,
finds the end of the frame, and accepts no beginning of it. Nothing else is framed. -/
theorem encode_round_trips (channels : Channels) (channel : Channel) (payload : Bytes) :
    (payload.length ≤ 0x7FFF → 1 ≤ channels.dlci channel → channels.dlci channel ≤ 63 →
      ∃ frame, encode channels channel payload = .ok frame ∧
        (∀ rest, decode channels channel true (frame ++ rest) =
          .payload (channels.dlci channel) payload) ∧
        (∀ rest, frameLength? (frame ++ rest) = some frame.length) ∧
        ∀ n, 1 ≤ n → n ≤ frame.length - 2 →
          decode channels channel true (frame.take n) = .dropped .truncated) ∧
    ∀ e, encode channels channel payload = .error e ↔
      (63 < channels.dlci channel ∧ e = .invalidDlci (channels.dlci channel)) ∨
      (channels.dlci channel ≤ 63 ∧ 0x7FFF < payload.length ∧
        e = .frameTooLarge payload.length 0x7FFF) := by
  refine ⟨?_, encode_error_iff channels channel payload⟩
  intro fits positive small
  have present : channels.dlci channel ≠ 0 := by
    intro zero
    rw [zero] at positive
    exact absurd positive (by decide)
  refine ⟨framed (channels.dlci channel) payload, encode_ok small fits, ?_, ?_, ?_⟩
  · exact decode_framed_append rfl present small fits
  · exact frameLength?_framed_append fits
  · intro n nonempty cut
    exact decode_framed_take rfl present small fits nonempty cut

/-- Two hundred octets on the data channel, whose length takes two octets. -/
theorem encode_round_trips_two_octets :
    let payload : Bytes := List.replicate 200 0x45
    payload.length ≤ 0x7FFF ∧
      ∃ frame, encode {} .data payload = .ok frame ∧
        (∀ rest, decode {} .data true (frame ++ rest) = .payload 2 payload) ∧
        (∀ rest, frameLength? (frame ++ rest) = some frame.length) ∧
        ∀ n, 1 ≤ n → n ≤ frame.length - 2 →
          decode {} .data true (frame.take n) = .dropped .truncated := by
  intro payload
  have fits : payload.length ≤ 0x7FFF := by
    rw [List.length_replicate]
    omega
  exact ⟨fits, (encode_round_trips {} .data payload).1 fits (by decide) (by decide)⟩

end ModemLink.Frame
