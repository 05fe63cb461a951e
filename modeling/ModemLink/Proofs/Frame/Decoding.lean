import ModemLink.Proofs.Frame.Header

/-!
# Decoding behind a known header

`decodeBody_header` gives the outcome for any octets behind a header, so that nothing below has to
look into the decoder again: `decodeBody_take` says that no proper beginning of a frame is accepted,
`decodeBody_eq_payload_iff` takes an accepted frame apart.
-/

namespace ModemLink.Frame

def checkedOctets (control : UInt8) (header data : Bytes) : Bytes :=
  if control &&& 0xEF = 0x03 then header ++ data else header

def checkOctet (control : UInt8) (header data : Bytes) : UInt8 :=
  0xFF - Fcs.remainder (checkedOctets control header data)

variable {address control : UInt8} {field : Bytes} {n : Nat}

theorem kindOfControl_ui (ui : control &&& 0xEF = 0x03) : kindOfControl control = .ui := by
  simp [kindOfControl, ui]

theorem kindOfControl_ne_ui (other : control &&& 0xEF ≠ 0x03) : kindOfControl control ≠ .ui := by
  unfold kindOfControl
  split
  · simp
  · simp

theorem verify_ui (announced : Announces field n) (ui : control &&& 0xEF = 0x03) (data : Bytes)
    (fcs : UInt8) :
    Fcs.verify .ui (address :: control :: (field ++ data)) fcs =
      (checkOctet control (address :: control :: field) data == fcs) := by
  simp [Fcs.verify, Fcs.compute, Fcs.covered, headerLength_header announced, Except.map,
    checkOctet, checkedOctets, ui]

theorem verify_header (announced : Announces field n) (other : control &&& 0xEF ≠ 0x03)
    {kind : FrameKind} (header : kind ≠ .ui) (data : Bytes) (fcs : UInt8) :
    Fcs.verify kind (address :: control :: field) fcs =
      (checkOctet control (address :: control :: field) data == fcs) := by
  have length : Fcs.headerLength (address :: control :: field) = .ok (2 + field.length) := by
    simpa using headerLength_header announced []
  have whole : (address :: control :: field).take (2 + field.length) =
      address :: control :: field := List.take_of_length_le (by simp [Nat.add_comm 2])
  cases kind with
  | ui => exact absurd rfl header
  | control | uih =>
      simp [Fcs.verify, Fcs.compute, Fcs.covered, length, whole, Except.map, checkOctet,
        checkedOctets, other]

/-- The outcome for any octets `tail` behind a header. -/
theorem decodeBody_header (announced : Announces field n) (expected : UInt8) (tail : Bytes) :
    decodeBody expected (address :: control :: (field ++ tail)) =
      if address >>> 2 = 0 then .dropped .controlChannel
      else if address >>> 2 ≠ expected then .dropped (.dlciMismatch expected (address >>> 2))
      else match tail.drop n with
        | [] => .dropped .truncated
        | fcs :: _ =>
          if checkOctet control (address :: control :: field) (tail.take n) = fcs then
            .payload (address >>> 2) (tail.take n)
          else .dropped .fcsMismatch := by
  have behind : (address :: control :: (field ++ tail)).drop (2 + field.length + n) =
      tail.drop n := by
    simp [show 2 + field.length + n = field.length + n + 1 + 1 by omega]
  have upTo : (address :: control :: (field ++ tail)).take (2 + field.length + n) =
      address :: control :: (field ++ tail.take n) := by
    simp [List.take_length_add_append, show 2 + field.length + n = field.length + n + 1 + 1 by omega]
  have header : (address :: control :: (field ++ tail)).take (2 + field.length) =
      address :: control :: field := by
    simp [Nat.add_comm 2]
  have data : (address :: control :: (field ++ tail)).drop (2 + field.length) = tail := by
    simp [Nat.add_comm 2]
  have length : Fcs.headerLength (address :: control :: (field ++ tail)) = _ :=
    headerLength_header announced tail
  have size : payloadLength (address :: control :: (field ++ tail)) = n :=
    payloadLength_header announced tail
  obtain ⟨first, rest, shape⟩ := announced.append_eq_cons tail
  rw [shape] at behind upTo header data length size ⊢
  unfold decodeBody
  simp only [length, size, behind, upTo, header, data]
  cases tail.drop n with
  | nil => rfl
  | cons fcs more =>
      by_cases ui : control &&& 0xEF = 0x03
      · simp only [kindOfControl_ui ui, verify_ui announced ui, beq_iff_eq]
      · have kind := kindOfControl_ne_ui ui
        cases known : kindOfControl control with
        | ui => exact absurd known kind
        | control | uih =>
            rw [known] at kind
            simp only [verify_header announced ui kind (tail.take n), beq_iff_eq]

/-! ## Frames that cannot be read to the end -/

theorem decodeBody_short {body : Bytes} (short : body.length < 3) (expected : UInt8) :
    decodeBody expected body = .dropped .truncated := by
  match body, short with
  | [], _ | [_], _ | [_, _], _ => rfl
  | _ :: _ :: _ :: _, short => simp only [List.length_cons] at short; omega

theorem three_octets {body : Bytes} (long : ¬ body.length < 3) :
    ∃ address control first rest, body = address :: control :: first :: rest := by
  match body with
  | [] | [_] | [_, _] => exact absurd (by simp) long
  | _ :: _ :: _ :: _ => exact ⟨_, _, _, _, rfl⟩

theorem decodeBody_unreadable {first : UInt8} {rest : Bytes} {e : CodecError}
    (unreadable : Fcs.headerLength (address :: control :: first :: rest) = .error e)
    (expected : UInt8) :
    decodeBody expected (address :: control :: first :: rest) =
      if address >>> 2 = 0 then .dropped .controlChannel
      else if address >>> 2 ≠ expected then .dropped (.dlciMismatch expected (address >>> 2))
      else .dropped .truncated := by
  simp only [decodeBody, unreadable]

/-- A frame for the expected channel that ends before its check octet is truncated. -/
theorem decodeBody_take (announced : Announces field n) {dlci : UInt8}
    (addressed : address >>> 2 = dlci) (present : dlci ≠ 0) (tail : Bytes) {m : Nat}
    (short : m ≤ 2 + field.length + n) :
    decodeBody dlci ((address :: control :: (field ++ tail)).take m) = .dropped .truncated := by
  subst addressed
  by_cases inside : m < 2 + field.length
  · obtain ⟨e, unreadable⟩ := headerLength_take announced tail inside
    obtain ⟨first, rest, shape⟩ := announced.append_eq_cons tail
    rw [shape] at unreadable ⊢
    by_cases octets : m < 3
    · exact decodeBody_short (by rw [List.length_take]; omega) _
    · obtain ⟨k, rfl⟩ : ∃ k, m = k + 1 + 1 + 1 := ⟨m - 3, by omega⟩
      simp only [List.take_succ_cons] at unreadable ⊢
      rw [decodeBody_unreadable unreadable, if_neg present, if_neg (not_not.mpr rfl)]
  · obtain ⟨k, rfl⟩ : ∃ k, m = field.length + k + 1 + 1 := ⟨m - (2 + field.length), by omega⟩
    have cut : (address :: control :: (field ++ tail)).take (field.length + k + 1 + 1) =
        address :: control :: (field ++ tail.take k) := by
      simp [List.take_length_add_append]
    have ended : (tail.take k).drop n = [] := List.drop_eq_nil_of_le (by simp; omega)
    rw [cut, decodeBody_header announced, if_neg present, if_neg (not_not.mpr rfl), ended]

theorem decodeBody_cases (expected : UInt8) (body : Bytes) :
    (∃ dlci data, decodeBody expected body = .payload dlci data) ∨
      ∃ reason, decodeBody expected body = .dropped reason ∧
        ∀ other found, reason = .dlciMismatch other found → other = expected := by
  have unlike : ∀ reason : DropReason, (∀ other found, reason ≠ .dlciMismatch other found) →
      ∀ other found, reason = .dlciMismatch other found → other = expected :=
    fun reason never other found same => absurd same (never other found)
  have mismatch : ∀ {address other found : UInt8},
      DropReason.dlciMismatch expected address = .dlciMismatch other found → other = expected :=
    fun same => (DropReason.dlciMismatch.inj same).1.symm
  cases read : Fcs.headerLength body with
  | ok header =>
      obtain ⟨address, control, field, tail, rfl, -, announced⟩ := exists_header read
      rw [decodeBody_header announced]
      split_ifs
      · exact .inr ⟨_, rfl, unlike _ (by simp)⟩
      · exact .inr ⟨_, rfl, fun _ _ => mismatch⟩
      · split
        · exact .inr ⟨_, rfl, unlike _ (by simp)⟩
        · split_ifs
          · exact .inl ⟨_, _, rfl⟩
          · exact .inr ⟨_, rfl, unlike _ (by simp)⟩
  | error e =>
      match body, read with
      | [], _ | [_], _ | [_, _], _ => exact .inr ⟨_, rfl, unlike _ (by simp)⟩
      | _ :: _ :: _ :: _, read =>
          rw [decodeBody_unreadable read]
          split_ifs
          · exact .inr ⟨_, rfl, unlike _ (by simp)⟩
          · exact .inr ⟨_, rfl, fun _ _ => mismatch⟩
          · exact .inr ⟨_, rfl, unlike _ (by simp)⟩

/-! ## Accepted frames -/

theorem decodeBody_eq_payload_iff {expected dlci : UInt8} {body data : Bytes} :
    decodeBody expected body = .payload dlci data ↔
      ∃ address control field fcs rest,
        body = address :: control :: (field ++ (data ++ fcs :: rest)) ∧
        address >>> 2 = dlci ∧ dlci = expected ∧ dlci ≠ 0 ∧ Announces field data.length ∧
        fcs = checkOctet control (address :: control :: field) data := by
  constructor
  · intro accepted
    cases read : Fcs.headerLength body with
    | error e =>
        match body, read with
        | [], _ | [_], _ | [_, _], _ => cases accepted
        | _ :: _ :: _ :: _, read =>
            rw [decodeBody_unreadable read] at accepted
            split_ifs at accepted
    | ok header =>
        obtain ⟨address, control, field, tail, rfl, -, announced⟩ := exists_header read
        rw [decodeBody_header announced] at accepted
        split_ifs at accepted with zero other
        cases behind : tail.drop (payloadLength (address :: control :: (field ++ tail))) with
        | nil => simp [behind] at accepted
        | cons fcs rest =>
            simp only [behind] at accepted
            split_ifs at accepted with checked
            obtain ⟨rfl, rfl⟩ := Decoded.payload.inj accepted
            have size : (tail.take (payloadLength (address :: control :: (field ++ tail)))).length
                = payloadLength (address :: control :: (field ++ tail)) := by
              have := congrArg List.length behind
              simp only [List.length_drop, List.length_cons] at this
              rw [List.length_take]
              omega
            refine ⟨address, control, field, fcs, rest, ?_, rfl, not_not.mp other, zero, ?_,
              checked.symm⟩
            · rw [← behind, List.take_append_drop]
            · rwa [size]
  · rintro ⟨address, control, field, fcs, rest, rfl, rfl, rfl, present, announced, rfl⟩
    rw [decodeBody_header announced, if_neg present, if_neg (not_not.mpr rfl)]
    simp

end ModemLink.Frame
