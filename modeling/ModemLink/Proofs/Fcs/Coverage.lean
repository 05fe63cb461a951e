import ModemLink.Codec.BitSerial

/-!
# What a check sequence covers

A buffer that holds a whole header holds as many length octets as its third octet announces
(`headerLength_eq_ok_iff`); any other is reported with the octets it lacks
(`needed_of_headerLength_error`). Over the octets that the kind of a frame covers, the check
sequence is the complement of their remainder taken bit by bit, and without a whole header there is
none (`check_sequence_is_bit_serial`).
-/

namespace ModemLink.Fcs

variable {kind : FrameKind} {buffer : Bytes} {header : Nat} {e : CodecError}

/-! ## Whole headers -/

/-- Whether a header is whole is settled by the third octet and the length of the buffer. -/
theorem headerLength_eq (buffer : Bytes) :
    headerLength buffer =
      match buffer[2]? with
      | none => .error (.bufferTooSmall 3 buffer.length)
      | some first =>
          if 2 + lengthOctets first ≤ buffer.length then .ok (2 + lengthOctets first)
          else .error (.bufferTooSmall (2 + lengthOctets first) buffer.length) := by
  match buffer with
  | [] | [_] | [_, _] => rfl
  | address :: control :: first :: rest =>
      have width : lengthOctets first = 1 ∨ lengthOctets first = 2 := by
        unfold lengthOctets
        split <;> simp
      rcases width with one | two
      · simp [headerLength, one]
      · cases rest with
        | nil => simp [headerLength, two]
        | cons second rest => simp [headerLength, two]

theorem headerLength_eq_ok_iff :
    headerLength buffer = .ok header ↔
      ∃ first, buffer[2]? = some first ∧ header = 2 + lengthOctets first ∧
        header ≤ buffer.length := by
  rw [headerLength_eq]
  cases found : buffer[2]? with
  | none => simp
  | some first =>
      by_cases whole : 2 + lengthOctets first ≤ buffer.length
      · simp only [if_pos whole, Except.ok.injEq, Option.some.injEq]
        constructor
        · rintro rfl
          exact ⟨first, rfl, rfl, whole⟩
        · rintro ⟨_, rfl, rfl, -⟩
          rfl
      · simp only [if_neg whole, Option.some.injEq, reduceCtorEq, false_iff]
        rintro ⟨_, rfl, rfl, fits⟩
        exact whole fits

theorem needed_of_headerLength_error (unreadable : headerLength buffer = .error e) :
    ∃ needed, e = .bufferTooSmall needed buffer.length ∧ buffer.length < needed := by
  rw [headerLength_eq] at unreadable
  cases found : buffer[2]? with
  | none =>
      rw [found] at unreadable
      cases unreadable
      exact ⟨3, rfl, Nat.lt_succ_of_le (List.getElem?_eq_none_iff.mp found)⟩
  | some first =>
      simp only [found] at unreadable
      split at unreadable
      · cases unreadable
      · rename_i missing
        cases unreadable
        exact ⟨_, rfl, Nat.lt_of_not_le missing⟩

/-! ## Covered octets -/

theorem covered_of_header (read : headerLength buffer = .ok header) :
    covered kind buffer = .ok (if kind = .ui then buffer else buffer.take header) := by
  cases kind with
  | ui | control | uih => simp [covered, read, Except.map]

theorem compute_of_header (read : headerLength buffer = .ok header) :
    compute kind buffer =
      .ok (0xFF - serialRemainder (if kind = .ui then buffer else buffer.take header)) := by
  rw [compute, covered_of_header read, ← remainder_eq_serialRemainder]
  rfl

theorem compute_of_error (unreadable : headerLength buffer = .error e) :
    compute kind buffer = .error e := by
  rw [compute, covered, unreadable]
  rfl

/-- The check sequence of a frame with a whole header is the complement of what eight shifts for
each octet leave of the header, or of the whole frame if its kind covers the payload. Of a frame
without a whole header there is none of any kind. -/
theorem check_sequence_is_bit_serial (kind : FrameKind) (buffer : Bytes) :
    (∀ header, headerLength buffer = .ok header →
      (∃ first, buffer[2]? = some first ∧ header = 2 + lengthOctets first ∧
        header ≤ buffer.length) ∧
      compute kind buffer =
        .ok (0xFF - serialRemainder (if kind = .ui then buffer else buffer.take header))) ∧
    ∀ e, headerLength buffer = .error e →
      (∃ needed, e = .bufferTooSmall needed buffer.length ∧ buffer.length < needed) ∧
      compute kind buffer = .error e := by
  constructor
  · intro header read
    exact ⟨headerLength_eq_ok_iff.mp read, compute_of_header read⟩
  · intro e unreadable
    exact ⟨needed_of_headerLength_error unreadable, compute_of_error unreadable⟩

/-- Two length octets before a payload, which the header alone is checked without, and a second
length octet that is missing. -/
theorem check_sequence_is_bit_serial_two_octets :
    let frame : Bytes := [0x05, 0xEF, 0x06, 0x02, 0x41]
    let cut : Bytes := [0x05, 0xEF, 0x06]
    headerLength frame = .ok 4 ∧
      compute .uih frame = .ok (0xFF - serialRemainder [0x05, 0xEF, 0x06, 0x02]) ∧
      compute .ui frame = .ok (0xFF - serialRemainder frame) ∧
      headerLength cut = .error (.bufferTooSmall 4 3) ∧
      compute .uih cut = .error (.bufferTooSmall 4 3) := by
  intro frame cut
  have read : headerLength frame = .ok 4 := rfl
  have unreadable : headerLength cut = .error (.bufferTooSmall 4 3) := rfl
  exact ⟨read, ((check_sequence_is_bit_serial .uih frame).1 4 read).2,
    ((check_sequence_is_bit_serial .ui frame).1 4 read).2, unreadable,
    ((check_sequence_is_bit_serial .uih cut).2 _ unreadable).2⟩

end ModemLink.Fcs
