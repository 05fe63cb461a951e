import ModemLink.Proofs.Frame.Grammar

/-!
# Cutting a transfer into frames

The cut loses nothing (`flatten_split`), every piece but the last is as long as its header says
(`frameLength?_of_mem_dropLast_split`), and a transfer of whole frames is cut into these frames
(`split_flatten`). The decoder does not look behind the length that a header announces
(`decode_take`), so that each piece is decoded as the transfer is from there on (`decode_split`).
-/

namespace ModemLink.Frame

/-! ## Frame lengths -/

theorem exists_header_of_frameLength? {buffer : Bytes} {n : Nat}
    (known : frameLength? buffer = some n) :
    ∃ address control field size tail,
      buffer = flag :: address :: control :: (field ++ tail) ∧ Announces field size ∧
      n = 5 + field.length + size := by
  cases buffer with
  | nil => cases known
  | cons octet body =>
      by_cases flagged : octet = flag
      · subst flagged
        cases read : Fcs.headerLength body with
        | error e => simp [frameLength?, read] at known
        | ok header =>
            rw [frameLength?_flag read, Option.some.injEq] at known
            obtain ⟨address, control, field, tail, shape, rfl, announced⟩ := exists_header read
            exact ⟨address, control, field, payloadLength body, tail, by rw [shape], announced,
              by omega⟩
      · simp [frameLength?, flagged] at known

theorem frameLength?_header {address control : UInt8} {field : Bytes} {size : Nat}
    (announced : Announces field size) (tail : Bytes) :
    frameLength? (flag :: address :: control :: (field ++ tail)) =
      some (5 + field.length + size) := by
  rw [frameLength?_flag (headerLength_header announced tail), payloadLength_header announced]
  congr 1
  omega

/-- Two flags, address, control, length field and check octet. -/
theorem six_le_frameLength {buffer : Bytes} {n : Nat} (known : frameLength? buffer = some n) :
    6 ≤ n := by
  obtain ⟨address, control, field, size, tail, -, announced, rfl⟩ :=
    exists_header_of_frameLength? known
  have := announced.length
  omega

theorem frameLength?_take {buffer : Bytes} {n : Nat} (known : frameLength? buffer = some n) :
    frameLength? (buffer.take n) = some n := by
  obtain ⟨address, control, field, size, tail, rfl, announced, rfl⟩ :=
    exists_header_of_frameLength? known
  have cut : (flag :: address :: control :: (field ++ tail)).take (5 + field.length + size) =
      flag :: address :: control :: (field ++ tail.take (size + 2)) := by
    simp [show 5 + field.length + size = field.length + (size + 2) + 1 + 1 + 1 by omega,
      List.take_length_add_append]
  rw [cut, frameLength?_header announced]

/-! ## Pieces -/

theorem split_whole {buffer : Bytes} (whole : ∀ n, frameLength? buffer = some n →
    buffer.length ≤ n) : split buffer = [buffer] := by
  rw [split]
  split
  · rfl
  · rename_i n known
    rw [dif_pos (List.drop_eq_nil_of_le (whole n known))]

theorem split_frame {buffer : Bytes} {n : Nat} (known : frameLength? buffer = some n)
    (more : n < buffer.length) : split buffer = buffer.take n :: split (buffer.drop n) := by
  have rest : buffer.drop n ≠ [] := by
    intro none
    have := List.drop_eq_nil_iff.mp none
    omega
  rw [split]
  split
  · rename_i unknown
    rw [known] at unknown
    cases unknown
  · rename_i m known'
    obtain rfl : n = m := Option.some.inj (known.symm.trans known')
    rw [dif_neg rest]

/-- Induction along the cut: no frame ends inside of the buffer, or one does and the rest is cut. -/
theorem split_induction {motive : Bytes → Prop}
    (whole : ∀ buffer, split buffer = [buffer] → motive buffer)
    (cut : ∀ buffer n, frameLength? buffer = some n → n < buffer.length →
      split buffer = buffer.take n :: split (buffer.drop n) → motive (buffer.drop n) →
      motive buffer)
    (buffer : Bytes) : motive buffer := by
  induction h : buffer.length using Nat.strong_induction_on generalizing buffer with
  | _ size ih =>
      by_cases ends : ∃ n, frameLength? buffer = some n ∧ n < buffer.length
      · obtain ⟨n, known, more⟩ := ends
        have shorter : (buffer.drop n).length < size := by
          have := six_le_frameLength known
          rw [List.length_drop]
          omega
        exact cut buffer n known more (split_frame known more) (ih _ shorter _ rfl)
      · refine whole buffer (split_whole ?_)
        intro n known
        exact Nat.le_of_not_lt fun more => ends ⟨n, known, more⟩

theorem split_ne_nil (buffer : Bytes) : split buffer ≠ [] := by
  induction buffer using split_induction with
  | whole buffer single => simp [single]
  | cut buffer n _ _ pieces _ => simp [pieces]

theorem flatten_split (buffer : Bytes) : (split buffer).flatten = buffer := by
  induction buffer using split_induction with
  | whole buffer single => simp [single]
  | cut buffer n _ _ pieces ih => rw [pieces, List.flatten_cons, ih, List.take_append_drop]

theorem frameLength?_of_mem_dropLast_split {buffer segment : Bytes}
    (early : segment ∈ (split buffer).dropLast) :
    frameLength? segment = some segment.length := by
  induction buffer using split_induction with
  | whole buffer single => simp [single] at early
  | cut buffer n known more pieces ih =>
      rw [pieces, List.dropLast_cons_of_ne_nil (split_ne_nil _)] at early
      rcases List.mem_cons.mp early with rfl | later
      · rw [frameLength?_take known, List.length_take, Nat.min_eq_left (Nat.le_of_lt more)]
      · exact ih later

/-! ## Whole frames -/

theorem split_flatten {frames : List Bytes} (present : frames ≠ [])
    (whole : ∀ frame ∈ frames, frame ≠ [] ∧
      ∀ rest, frameLength? (frame ++ rest) = some frame.length) :
    split frames.flatten = frames := by
  induction frames with
  | nil => exact absurd rfl present
  | cons frame frames ih =>
      obtain ⟨-, length⟩ := whole frame List.mem_cons_self
      rw [List.flatten_cons]
      cases frames with
      | nil =>
          rw [List.flatten_nil, List.append_nil]
          refine split_whole ?_
          intro n known
          have own := length []
          rw [List.append_nil, known, Option.some.injEq] at own
          exact own.ge
      | cons next later =>
          obtain ⟨nonempty, -⟩ := whole next (by simp)
          have more : frame.length < (frame ++ (next :: later).flatten).length := by
            have := List.length_pos_iff.mpr nonempty
            simp only [List.flatten_cons, List.length_append]
            omega
          rw [split_frame (length _) more, List.take_left, List.drop_left,
            ih (by simp) fun other member => whole other (List.mem_cons_of_mem _ member)]

/-! ## Decoding a piece -/

variable {channels : Channels} {channel : Channel}

/-- What follows the check octet makes no difference. -/
theorem decode_take {buffer : Bytes} {n m : Nat} (known : frameLength? buffer = some n)
    (whole : n ≤ m + 1) :
    decode channels channel true (buffer.take m) = decode channels channel true buffer := by
  obtain ⟨address, control, field, size, tail, rfl, announced, rfl⟩ :=
    exists_header_of_frameLength? known
  obtain ⟨k, rfl⟩ : ∃ k, m = field.length + (size + (k + 1)) + 1 + 1 + 1 :=
    ⟨m - (4 + field.length + size), by omega⟩
  have cut : (flag :: address :: control :: (field ++ tail)).take
      (field.length + (size + (k + 1)) + 1 + 1 + 1) =
        flag :: address :: control :: (field ++ tail.take (size + (k + 1))) := by
    simp [List.take_length_add_append]
  have payload : (tail.take (size + (k + 1))).take size = tail.take size := by
    rw [List.take_take, Nat.min_eq_left (Nat.le_add_right _ _)]
  have behind : (tail.take (size + (k + 1))).drop size = (tail.drop size).take (k + 1) := by
    rw [List.drop_take, Nat.add_sub_cancel_left]
  rw [cut, decode_flag, decode_flag, decodeBody_header announced, decodeBody_header announced,
    payload, behind]
  cases tail.drop size with
  | nil => rfl
  | cons fcs rest => rfl

/-- An accepted frame knows its length, and at most its closing flag is missing. -/
theorem frameLength?_of_payload {buffer data : Bytes} {dlci : UInt8}
    (accepted : decode channels channel true buffer = .payload dlci data) :
    ∃ n, frameLength? buffer = some n ∧ (n = data.length + 6 ∨ n = data.length + 7) ∧
      n ≤ buffer.length + 1 := by
  obtain ⟨address, control, field, fcs, rest, rfl, -, -, -, announced, -⟩ :=
    decode_eq_payload_iff.mp accepted
  have width := announced.length
  refine ⟨_, frameLength?_header announced _, by omega, ?_⟩
  simp only [List.length_cons, List.length_append]
  omega

theorem decode_split {buffer piece : Bytes} {before after : List Bytes}
    (cut : split buffer = before ++ piece :: after) :
    decode channels channel true piece = decode channels channel true (piece ++ after.flatten) := by
  induction buffer using split_induction generalizing before with
  | whole buffer single =>
      rw [single] at cut
      cases before with
      | nil =>
          obtain ⟨-, none⟩ := List.cons.inj cut
          rw [← none, List.flatten_nil, List.append_nil]
      | cons first before => simp at cut
  | cut buffer n known more pieces ih =>
      rw [pieces] at cut
      cases before with
      | nil =>
          obtain ⟨rfl, rest⟩ := List.cons.inj cut
          rw [← rest, flatten_split, List.take_append_drop, decode_take known (Nat.le_succ n)]
      | cons first before => exact ih (List.cons.inj cut).2

/-- Cutting a transfer into frames makes no difference to the decoder. A frame is at least six
octets long, and is decoded by itself as it is with all that follows. An accepted frame is six or
seven octets longer than its payload and there but for its closing flag. -/
theorem splitting_is_transparent (channels : Channels) (channel : Channel) (buffer : Bytes) :
    (∀ n, frameLength? buffer = some n →
      6 ≤ n ∧
      (n ≤ buffer.length →
        decode channels channel true buffer = decode channels channel true (buffer.take n)) ∧
      (buffer.length + 1 < n →
        ∀ dlci data, decode channels channel true buffer ≠ .payload dlci data)) ∧
    (∀ dlci data, decode channels channel true buffer = .payload dlci data →
      ∃ n, frameLength? buffer = some n ∧ (n = data.length + 6 ∨ n = data.length + 7) ∧
        n - 1 ≤ buffer.length) ∧
    ∀ before piece after, split buffer = before ++ piece :: after →
      decode channels channel true piece =
        decode channels channel true (piece ++ after.flatten) := by
  refine ⟨fun n known => ⟨six_le_frameLength known, ?_, ?_⟩, ?_, ?_⟩
  · intro fits
    exact (decode_take known (Nat.le_succ n)).symm
  · intro short dlci data accepted
    obtain ⟨m, known', -, whole⟩ := frameLength?_of_payload accepted
    obtain rfl : n = m := Option.some.inj (known.symm.trans known')
    omega
  · intro dlci data accepted
    obtain ⟨n, known, size, whole⟩ := frameLength?_of_payload accepted
    exact ⟨n, known, size, Nat.sub_le_of_le_add whole⟩
  · intro before piece after cut
    exact decode_split cut

/-- A frame without its closing flag, and the same frame in a transfer with the beginning of another
one behind it. -/
theorem splitting_is_transparent_cut_frame :
    let frame : Bytes := [0xF9, 0x09, 0xEF, 0x05, 0x41, 0x54, 0xD6]
    let cut : Bytes := [0xF9, 0x09, 0xEF, 0x05, 0x41]
    let buffer := frame ++ 0xF9 :: cut
    (decode {} .data true frame = .payload 2 [0x41, 0x54] ∧
      ∃ n, frameLength? frame = some n ∧ (n = 2 + 6 ∨ n = 2 + 7) ∧ n - 1 ≤ frame.length) ∧
    (frameLength? buffer = some 8 ∧ 8 ≤ buffer.length ∧
      decode {} .data true buffer = decode {} .data true (buffer.take 8)) ∧
    (frameLength? cut = some 8 ∧ cut.length + 1 < 8 ∧
      ∀ dlci data, decode {} .data true cut ≠ .payload dlci data) ∧
    split buffer = [buffer.take 8] ++ cut :: [] ∧
      decode {} .data true cut = decode {} .data true (cut ++ [].flatten) := by
  intro frame cut buffer
  have accepted : decode {} .data true frame = .payload 2 [0x41, 0x54] := by decide
  have known : frameLength? buffer = some 8 := by decide
  have short : frameLength? cut = some 8 := by decide
  have pieces : split buffer = [buffer.take 8] ++ cut :: [] := by
    have last : split cut = [cut] := split_whole fun n read => by
      obtain rfl : 8 = n := Option.some.inj (short.symm.trans read)
      decide
    rw [split_frame known (by decide), show buffer.drop 8 = cut from rfl, last]
    rfl
  exact ⟨⟨accepted, (splitting_is_transparent {} .data frame).2.1 2 [0x41, 0x54] accepted⟩,
    ⟨known, by decide, ((splitting_is_transparent {} .data buffer).1 8 known).2.1 (by decide)⟩,
    ⟨short, by decide, ((splitting_is_transparent {} .data cut).1 8 short).2.2 (by decide)⟩,
    pieces, (splitting_is_transparent {} .data buffer).2.2 _ cut [] pieces⟩

end ModemLink.Frame
