import ModemLink.Proofs.Frame.RoundTrip

/-!
# The grammar of accepted frames

`decode_accepts` characterises the decoder on every buffer: which octets are accepted, as what, and
where the payload lies in them. For the last, the decoder is written once more with every octet and
every slice taken from the buffer by position, where an access outside of the buffer gives `none`;
`decodeAt?_eq` says that there is no such access.
-/

namespace ModemLink.Frame

/-- The octets from position `first` up to `last`. -/
def slice? (buffer : Bytes) (first last : Nat) : Option Bytes :=
  if first ≤ last ∧ last ≤ buffer.length then some ((buffer.take last).drop first) else none

def headerLengthAt? (buffer : Bytes) : Option (Except CodecError Nat) :=
  if buffer.length < 3 then some (.error (.bufferTooSmall 3 buffer.length))
  else do
    let length := 2 + Fcs.lengthOctets (← buffer[2]?)
    if buffer.length < length then some (.error (.bufferTooSmall length buffer.length))
    else some (.ok length)

def payloadLengthAt? (buffer : Bytes) : Option Nat := do
  let first ← buffer[3]?
  if Fcs.lengthOctets first = 1 then some (first >>> 1).toNat
  else do
    let second ← buffer[4]?
    some ((first >>> 1).toNat ||| (second.toNat <<< 7))

def computeAt? (kind : FrameKind) (buffer : Bytes) : Option (Except CodecError UInt8) := do
  match ← headerLengthAt? buffer with
  | .error e => some (.error e)
  | .ok header =>
      let covered ← match kind with
        | .control | .uih => slice? buffer 0 header
        | .ui => some buffer
      some (.ok (0xFF - Fcs.remainder covered))

def verifyAt? (kind : FrameKind) (buffer : Bytes) (expected : UInt8) : Option Bool := do
  match ← computeAt? kind buffer with
  | .ok fcs => some (fcs == expected)
  | .error _ => some false

def decodeAt? (channels : Channels) (channel : Channel) (enabled : Bool) (buffer : Bytes) :
    Option Decoded :=
  if !enabled then some (.passthrough buffer)
  else if buffer.head? ≠ some flag then some (.notAFrame buffer.length)
  else if buffer.length < 4 then some (.dropped .truncated)
  else do
    let found := (← buffer[1]?) >>> 2
    let expected := channels.dlci channel
    if found = 0 then some (.dropped .controlChannel)
    else if found ≠ expected then some (.dropped (.dlciMismatch expected found))
    else do
      match ← headerLengthAt? (← slice? buffer 1 buffer.length) with
      | .error _ => some (.dropped .truncated)
      | .ok header =>
          let size ← payloadLengthAt? buffer
          let start := 1 + header
          let stop := start + size
          if size ≥ buffer.length then some (.dropped .truncated)
          else if stop ≥ buffer.length then some (.dropped .truncated)
          else do
            let kind := kindOfControl (← buffer[2]?)
            let covered ← match kind with
              | .ui => slice? buffer 1 stop
              | .uih | .control => slice? buffer 1 start
            if ← verifyAt? kind covered (← buffer[stop]?) then
              some (.payload found (← slice? buffer start stop))
            else some (.dropped .fcsMismatch)

/-! ## Every access is inside -/

theorem slice?_eq {buffer : Bytes} {first last : Nat} (ordered : first ≤ last)
    (inside : last ≤ buffer.length) :
    slice? buffer first last = some ((buffer.take last).drop first) :=
  if_pos ⟨ordered, inside⟩

theorem slice?_middle {buffer before middle after : Bytes} {first last : Nat}
    (shape : buffer = before ++ (middle ++ after)) (start : first = before.length)
    (stop : last = before.length + middle.length) : slice? buffer first last = some middle := by
  subst shape start stop
  rw [slice?_eq (by omega) (by simp only [List.length_append]; omega)]
  simp [List.take_length_add_append]

theorem slice?_body (body : Bytes) : slice? (flag :: body) 1 (flag :: body).length = some body := by
  rw [slice?_eq (by simp) (Nat.le_refl _), List.take_length]
  rfl

theorem getElem?_middle {buffer before after : Bytes} {octet : UInt8} {i : Nat}
    (shape : buffer = before ++ octet :: after) (position : i = before.length) :
    buffer[i]? = some octet := by
  subst shape position
  simp

theorem headerLengthAt?_eq (buffer : Bytes) :
    headerLengthAt? buffer = some (Fcs.headerLength buffer) := by
  match buffer with
  | [] | [_] | [_, _] => rfl
  | [_, _, first] =>
      rcases extension_cases first with extension | extension
      · simp [headerLengthAt?, Fcs.headerLength, lengthOctets_extended extension]
      · simp [headerLengthAt?, Fcs.headerLength, lengthOctets_open extension]
  | _ :: _ :: first :: _ :: tail =>
      have three : ¬ tail.length + 1 + 1 + 1 + 1 < 3 := by omega
      have four : ¬ tail.length + 1 + 1 + 1 + 1 < 4 := by omega
      rcases extension_cases first with extension | extension
      · simp [headerLengthAt?, Fcs.headerLength, lengthOctets_extended extension, three]
      · simp [headerLengthAt?, Fcs.headerLength, lengthOctets_open extension, three, four]

theorem headerLength_le {buffer : Bytes} {header : Nat}
    (read : Fcs.headerLength buffer = .ok header) : header ≤ buffer.length := by
  obtain ⟨address, control, field, tail, rfl, rfl, -⟩ := exists_header read
  simp only [List.length_cons, List.length_append]
  omega

theorem payloadLengthAt?_eq {opening address control : UInt8} {field : Bytes} {n : Nat}
    (announced : Announces field n) (tail : Bytes) :
    payloadLengthAt? (opening :: address :: control :: (field ++ tail)) = some n := by
  cases announced with
  | short extension => simp [payloadLengthAt?, lengthOctets_extended extension]
  | long extension => simp [payloadLengthAt?, lengthOctets_open extension]

theorem computeAt?_eq (kind : FrameKind) (buffer : Bytes) :
    computeAt? kind buffer = some (Fcs.compute kind buffer) := by
  simp only [computeAt?, headerLengthAt?_eq, Fcs.compute, Fcs.covered, Option.bind_eq_bind,
    Option.bind_some]
  cases read : Fcs.headerLength buffer with
  | error e => rfl
  | ok header =>
      cases kind with
      | ui => rfl
      | control | uih =>
          simp only [slice?_eq (Nat.zero_le _) (headerLength_le read)]
          rfl

theorem verifyAt?_eq (kind : FrameKind) (buffer : Bytes) (expected : UInt8) :
    verifyAt? kind buffer expected = some (Fcs.verify kind buffer expected) := by
  simp only [verifyAt?, computeAt?_eq, Fcs.verify, Option.bind_eq_bind, Option.bind_some]
  cases Fcs.compute kind buffer with
  | error => rfl
  | ok => rfl

/-! ## A whole frame -/

section Whole

variable (address control : UInt8) (field data rest : Bytes) (fcs : UInt8)

theorem slice?_header :
    slice? (flag :: address :: control :: (field ++ (data ++ fcs :: rest))) 1
      (1 + (2 + field.length)) = some (address :: control :: field) := by
  have shape : flag :: address :: control :: (field ++ (data ++ fcs :: rest)) =
      [flag] ++ ((address :: control :: field) ++ (data ++ fcs :: rest)) := rfl
  exact slice?_middle shape rfl (by simp only [List.length_cons, List.length_nil]; omega)

theorem slice?_header_data :
    slice? (flag :: address :: control :: (field ++ (data ++ fcs :: rest))) 1
      (1 + (2 + field.length) + data.length) = some (address :: control :: (field ++ data)) := by
  have shape : flag :: address :: control :: (field ++ (data ++ fcs :: rest)) =
      [flag] ++ ((address :: control :: (field ++ data)) ++ fcs :: rest) := by simp
  refine slice?_middle shape rfl ?_
  simp only [List.length_cons, List.length_nil, List.length_append]
  omega

theorem slice?_data :
    slice? (flag :: address :: control :: (field ++ (data ++ fcs :: rest)))
      (1 + (2 + field.length)) (1 + (2 + field.length) + data.length) = some data := by
  have shape : flag :: address :: control :: (field ++ (data ++ fcs :: rest)) =
      (flag :: address :: control :: field) ++ (data ++ fcs :: rest) := rfl
  have start : 1 + (2 + field.length) = (flag :: address :: control :: field).length := by
    simp only [List.length_cons]
    omega
  exact slice?_middle shape start (by rw [start])

theorem getElem?_fcs :
    (flag :: address :: control :: (field ++ (data ++ fcs :: rest)))[
      1 + (2 + field.length) + data.length]? = some fcs := by
  have shape : flag :: address :: control :: (field ++ (data ++ fcs :: rest)) =
      (flag :: address :: control :: (field ++ data)) ++ fcs :: rest := by simp
  refine getElem?_middle shape ?_
  simp only [List.length_cons, List.length_append]
  omega

end Whole

variable {channels : Channels} {channel : Channel}

theorem decodeAt?_header {address control : UInt8} {field : Bytes} {n : Nat}
    (announced : Announces field n) (tail : Bytes) :
    decodeAt? channels channel true (flag :: address :: control :: (field ++ tail)) =
      some (decode channels channel true (flag :: address :: control :: (field ++ tail))) := by
  have width := announced.length
  have long : ¬ (flag :: address :: control :: (field ++ tail)).length < 4 := by
    simp only [List.length_cons, List.length_append]
    omega
  rw [decode_flag, decodeBody_header announced]
  unfold decodeAt?
  simp only [slice?_body, headerLengthAt?_eq, headerLength_header announced,
    payloadLengthAt?_eq announced, verifyAt?_eq, Option.bind_eq_bind, Option.bind_some, long,
    if_false, List.head?_cons, Bool.not_true, Bool.false_eq_true, ne_eq, not_true_eq_false,
    List.getElem?_cons_succ, List.getElem?_cons_zero]
  by_cases absent : address >>> 2 = 0
  · rw [if_pos absent, if_pos absent]
  rw [if_neg absent, if_neg absent]
  by_cases other : address >>> 2 ≠ channels.dlci channel
  · rw [if_pos other, if_pos other]
  rw [if_neg other, if_neg other]
  have length : (flag :: address :: control :: (field ++ tail)).length =
      1 + (2 + field.length) + tail.length := by
    simp only [List.length_cons, List.length_append]
    omega
  cases behind : tail.drop n with
  | nil =>
      have ended : tail.length ≤ n := List.drop_eq_nil_iff.mp behind
      have past : 1 + (2 + field.length) + n ≥
          (flag :: address :: control :: (field ++ tail)).length := by omega
      simp only [past, if_true, ite_self]
  | cons fcs rest =>
      -- The payload is whole, so that all positions can be read off the concatenation.
      obtain ⟨data, shape, size⟩ : ∃ data, tail = data ++ fcs :: rest ∧ data.length = n := by
        have := congrArg List.length behind
        simp only [List.length_drop, List.length_cons] at this
        exact ⟨tail.take n, by rw [← behind, List.take_append_drop],
          by rw [List.length_take]; omega⟩
      subst shape size
      have whole : (data ++ fcs :: rest).length = data.length + (rest.length + 1) :=
        List.length_append
      have inside : ¬ data.length ≥
          (flag :: address :: control :: (field ++ (data ++ fcs :: rest))).length := by omega
      have before : ¬ 1 + (2 + field.length) + data.length ≥
          (flag :: address :: control :: (field ++ (data ++ fcs :: rest))).length := by omega
      rw [if_neg inside, if_neg before]
      simp only [slice?_header, slice?_header_data, slice?_data, getElem?_fcs, Option.bind_some,
        List.take_left]
      by_cases ui : control &&& 0xEF = 0x03
      · simp only [kindOfControl_ui ui, verify_ui announced ui, beq_iff_eq]
        split_ifs <;> rfl
      · have kind := kindOfControl_ne_ui ui
        cases known : kindOfControl control with
        | ui => exact absurd known kind
        | control | uih =>
            rw [known] at kind
            simp only [verify_header announced ui kind data, beq_iff_eq]
            split_ifs <;> rfl

theorem decodeAt?_unreadable {address control first : UInt8} {rest : Bytes} {e : CodecError}
    (unreadable : Fcs.headerLength (address :: control :: first :: rest) = .error e) :
    decodeAt? channels channel true (flag :: address :: control :: first :: rest) =
      some (decode channels channel true (flag :: address :: control :: first :: rest)) := by
  have long : ¬ (flag :: address :: control :: first :: rest).length < 4 := by
    simp only [List.length_cons]
    omega
  rw [decode_flag, decodeBody_unreadable unreadable]
  unfold decodeAt?
  simp only [long, slice?_body, headerLengthAt?_eq, unreadable, Option.bind_eq_bind,
    Option.bind_some, if_false, List.head?_cons, Bool.not_true, Bool.false_eq_true, ne_eq,
    not_true_eq_false, List.getElem?_cons_succ, List.getElem?_cons_zero]
  split_ifs <;> rfl

/-- No access leaves the buffer, and what is read by position is what the decoder gives. -/
theorem decodeAt?_eq (enabled : Bool) (buffer : Bytes) :
    decodeAt? channels channel enabled buffer = some (decode channels channel enabled buffer) := by
  cases enabled with
  | false => rfl
  | true =>
      cases buffer with
      | nil => rfl
      | cons octet body =>
          by_cases flagged : octet = flag
          swap
          · simp [decodeAt?, decode, flagged]
          subst flagged
          by_cases short : body.length < 3
          · simp [decodeAt?, decode_flag, decodeBody_short short, short]
          cases read : Fcs.headerLength body with
          | ok header =>
              obtain ⟨address, control, field, tail, rfl, -, announced⟩ := exists_header read
              exact decodeAt?_header announced tail
          | error e =>
              obtain ⟨address, control, first, rest, rfl⟩ := three_octets short
              exact decodeAt?_unreadable read

/-! ## The grammar -/

theorem decode_eq_payload_iff {buffer data : Bytes} {dlci : UInt8} :
    decode channels channel true buffer = .payload dlci data ↔
      ∃ address control field fcs rest,
        buffer = flag :: address :: control :: (field ++ (data ++ fcs :: rest)) ∧
        address >>> 2 = dlci ∧ dlci = channels.dlci channel ∧ dlci ≠ 0 ∧
        Announces field data.length ∧
        fcs = checkOctet control (address :: control :: field) data := by
  constructor
  · intro accepted
    cases buffer with
    | nil => cases accepted
    | cons octet body =>
        by_cases flagged : octet = flag
        · subst flagged
          rw [decode_flag, decodeBody_eq_payload_iff] at accepted
          obtain ⟨address, control, field, fcs, rest, rfl, frame⟩ := accepted
          exact ⟨address, control, field, fcs, rest, rfl, frame⟩
        · simp [decode, flagged] at accepted
  · rintro ⟨address, control, field, fcs, rest, rfl, frame⟩
    rw [decode_flag, decodeBody_eq_payload_iff]
    exact ⟨address, control, field, fcs, rest, rfl, frame⟩

theorem decode_cases (channels : Channels) (channel : Channel) (buffer : Bytes) :
    (∃ dlci data, decode channels channel true buffer = .payload dlci data) ∨
      decode channels channel true buffer = .notAFrame buffer.length ∨
      ∃ reason, decode channels channel true buffer = .dropped reason ∧
        ∀ other found, reason = .dlciMismatch other found → other = channels.dlci channel := by
  cases buffer with
  | nil => exact .inr (.inl rfl)
  | cons octet body =>
      by_cases flagged : octet = flag
      · subst flagged
        rw [decode_flag]
        rcases decodeBody_cases (channels.dlci channel) body with accepted | dropped
        · exact .inl accepted
        · exact .inr (.inr dropped)
      · exact .inr (.inl (by simp [decode, flagged]))

/-- A buffer is accepted exactly if a frame of the channel opens it, whose check octet stands for
the header, or for header and payload if it is a `ui` frame. Whatever the buffer holds, the decoder
reads inside of it, and the payload is a slice of it behind the header. -/
theorem decode_accepts (channels : Channels) (channel : Channel) (buffer : Bytes) :
    (∀ dlci data, decode channels channel true buffer = .payload dlci data ↔
      ∃ (address control : UInt8) (field : Bytes) (fcs : UInt8) (rest : Bytes),
        buffer = [0xF9, address, control] ++ field ++ data ++ [fcs] ++ rest ∧
        address >>> 2 = dlci ∧ dlci = channels.dlci channel ∧ dlci ≠ 0 ∧
        Announces field data.length ∧
        fcs = 0xFF - Fcs.remainder
          (if control &&& 0xEF = 0x03 then [address, control] ++ field ++ data
            else [address, control] ++ field)) ∧
    decodeAt? channels channel true buffer = some (decode channels channel true buffer) ∧
    ∀ dlci data, decode channels channel true buffer = .payload dlci data →
      ∃ start, (start = 4 ∨ start = 5) ∧
        slice? buffer start (start + data.length) = some data := by
  refine ⟨?_, decodeAt?_eq true buffer, ?_⟩
  · intro dlci data
    rw [decode_eq_payload_iff]
    simp [flag, checkOctet, checkedOctets]
  · intro dlci data accepted
    obtain ⟨address, control, field, fcs, rest, rfl, -, -, -, announced, -⟩ :=
      decode_eq_payload_iff.mp accepted
    have width := announced.length
    exact ⟨1 + (2 + field.length), by omega, slice?_data address control field data rest fcs⟩

/-- An unnumbered information frame with the poll bit, checked over its payload. -/
theorem decode_accepts_ui :
    let buffer : Bytes := [0xF9, 0x09, 0x13, 0x05, 0x41, 0x54, 0xDE]
    decode {} .data true buffer = .payload 2 [0x41, 0x54] ∧
      ∃ start, (start = 4 ∨ start = 5) ∧ slice? buffer start (start + 2) = some [0x41, 0x54] := by
  intro buffer
  have accepted : decode {} .data true buffer = .payload 2 [0x41, 0x54] := by decide
  exact ⟨accepted, (decode_accepts {} .data buffer).2.2 2 [0x41, 0x54] accepted⟩

end ModemLink.Frame
