import Mathlib.Tactic.Tauto
import ModemLink.Proofs.FlowControl.RoundTrip

/-!
# The bits of a flow-control message

A message travels in some of the bits of its twenty octets: octets are read as a message exactly if
these bits are those of its encoding (`decode_eq_ok_iff`), so nothing else about them matters and
re-encoding changes nothing else (`message_round_trips`). Of the type two bits travel. They keep a
request apart from most acknowledgements, but not from those whose type is a multiple of four
(`isRequest_decode_encode`).
-/

namespace ModemLink

/-! ## Octets and words -/

theorem full_and (octet : UInt8) : 0xFF &&& octet = octet := by
  rw [UInt8.and_comm]
  exact UInt8.and_neg_one

/-- Four octets spell a word exactly if they are the octets of that word. -/
theorem wordOfBigEndian_eq_iff {a b c d : UInt8} {w : UInt32} :
    wordOfBigEndian a b c d = w ↔ [a, b, c, d] = bigEndian32 w := by
  constructor
  · rintro rfl
    have ha := a.toNat_lt
    have hb := b.toNat_lt
    have hc := c.toNat_lt
    have hd := d.toNat_lt
    simp only [bigEndian32, List.cons.injEq, and_true, ← UInt8.toNat_inj, UInt32.toNat_toUInt8,
      UInt32.toNat_shiftRight, UInt32.reduceToNat, Nat.reduceMod, Nat.shiftRight_eq_div_pow,
      toNat_wordOfBigEndian]
    omega
  · intro same
    simp only [bigEndian32, List.cons.injEq, and_true] at same
    obtain ⟨rfl, rfl, rfl, rfl⟩ := same
    exact wordOfBigEndian_octets w

namespace FlowControl

/-! ## What is read -/

/-- The bits of each octet that belong to a field: the command bit, the multiplexer id, the command,
two bits of the type and the three words. -/
def definedBits : Bytes := [0x80, 0xFF, 0, 0, 0xFF, 0x03, 0, 0] ++ List.replicate 12 0xFF

/-- The fields in `octets`, with every other bit cleared and everything behind the message cut. -/
def defined (octets : Bytes) : Bytes := List.zipWith (· &&& ·) definedBits octets

theorem commandBit_and_ne_zero_iff (octet : UInt8) :
    octet &&& commandBit ≠ 0 ↔ 0x80 &&& octet = 0x80 := by
  have octets : ∀ k : Fin 256,
      k.val.toUInt8 &&& commandBit ≠ 0 ↔ 0x80 &&& k.val.toUInt8 = 0x80 := by
    decide +kernel
  simpa using octets ⟨octet.toNat, octet.toNat_lt⟩

theorem ofCode_eq_ok_iff {code : UInt8} {command : FlowCommand} :
    FlowCommand.ofCode code = .ok command ↔ code = command.code := by
  constructor
  · intro read
    unfold FlowCommand.ofCode at read
    split at read
    · cases read
      assumption
    · split at read
      · cases read
        assumption
      · cases read
  · rintro rfl
    exact ofCode_code command

theorem low_type_eq_iff {octet type : UInt8} :
    octet &&& 0x03 = type ↔ type ≤ 3 ∧ 0x03 &&& octet = type &&& 0x03 := by
  constructor
  · rintro rfl
    have small : octet &&& 0x03 ≤ 3 := by
      rw [UInt8.le_iff_toNat_le, UInt8.toNat_and]
      exact Nat.and_le_right
    exact ⟨small, by rw [low_type small, UInt8.and_comm]⟩
  · rintro ⟨small, same⟩
    rw [UInt8.and_comm, same, low_type small]

theorem defined_encode (m : FlowControl) (rest : Bytes) :
    defined (m.encode ++ rest) =
      [0x80, m.muxId, 0, 0, m.command.code, m.type &&& 0x03, 0, 0] ++ bigEndian32 m.transaction ++
        bigEndian32 m.sequence ++ bigEndian32 m.qos := by
  have control : 0x80 &&& commandBit = 0x80 := by decide
  have masked : 0x03 &&& (m.type &&& 0x03) = m.type &&& 0x03 := by
    rw [UInt8.and_comm, UInt8.and_assoc, UInt8.and_self]
  simp [defined, definedBits, encode, bigEndian16, bigEndian32, full_and, control, masked]

section Octets

variable (first muxId l₀ l₁ command type r₀ r₁ t₀ t₁ t₂ t₃ s₀ s₁ s₂ s₃ q₀ q₁ q₂ q₃ : UInt8)
  (rest : Bytes)

theorem decode_octets {m : FlowControl} :
    decode (first :: muxId :: l₀ :: l₁ :: command :: type :: r₀ :: r₁ :: t₀ :: t₁ :: t₂ :: t₃ ::
      s₀ :: s₁ :: s₂ :: s₃ :: q₀ :: q₁ :: q₂ :: q₃ :: rest) = .ok m ↔
      first &&& commandBit ≠ 0 ∧ muxId = m.muxId ∧ command = m.command.code ∧
        type &&& 0x03 = m.type ∧ wordOfBigEndian t₀ t₁ t₂ t₃ = m.transaction ∧
        wordOfBigEndian s₀ s₁ s₂ s₃ = m.sequence ∧ wordOfBigEndian q₀ q₁ q₂ q₃ = m.qos := by
  have known : (FlowCommand.ofCode command).map (fun command =>
      ({ muxId, command, type := type &&& 0x03, transaction := wordOfBigEndian t₀ t₁ t₂ t₃
         sequence := wordOfBigEndian s₀ s₁ s₂ s₃, qos := wordOfBigEndian q₀ q₁ q₂ q₃ } :
        FlowControl)) = .ok m ↔
      muxId = m.muxId ∧ command = m.command.code ∧ type &&& 0x03 = m.type ∧
        wordOfBigEndian t₀ t₁ t₂ t₃ = m.transaction ∧
        wordOfBigEndian s₀ s₁ s₂ s₃ = m.sequence ∧ wordOfBigEndian q₀ q₁ q₂ q₃ = m.qos := by
    constructor
    · intro read
      cases spelled : FlowCommand.ofCode command with
      | error e => simp [spelled, Except.map] at read
      | ok name =>
          obtain rfl : _ = m := by simpa [spelled, Except.map] using read
          exact ⟨rfl, ofCode_eq_ok_iff.mp spelled, rfl, rfl, rfl, rfl⟩
    · rintro ⟨rfl, rfl, same, transaction, sequence, qos⟩
      rw [ofCode_code, same, transaction, sequence, qos]
      rfl
  rw [decode, ← known]
  split
  · rename_i data
    simp [data]
  · rename_i control
    simp [control]

end Octets

theorem decode_short {octets : Bytes} (short : octets.length < encodedLength) :
    decode octets = .error (.bufferTooSmall encodedLength octets.length) := by
  unfold decode
  split
  · simp only [List.length_cons, encodedLength, bodyLength] at short
    omega
  · rfl

theorem exists_octets {octets : Bytes} (long : encodedLength ≤ octets.length) :
    ∃ first muxId l₀ l₁ command type r₀ r₁ t₀ t₁ t₂ t₃ s₀ s₁ s₂ s₃ q₀ q₁ q₂ q₃ rest,
      octets = first :: muxId :: l₀ :: l₁ :: command :: type :: r₀ :: r₁ :: t₀ :: t₁ :: t₂ :: t₃ ::
        s₀ :: s₁ :: s₂ :: s₃ :: q₀ :: q₁ :: q₂ :: q₃ :: rest := by
  iterate 20
    obtain _ | ⟨octet, octets⟩ := octets
    · simp [encodedLength, bodyLength] at long
  exact ⟨_, _, _, _, _, _, _, _, _, _, _, _, _, _, _, _, _, _, _, _, octets, rfl⟩

/-- Octets are read as a message exactly if its fields are in them. -/
theorem decode_eq_ok_iff {octets : Bytes} {m : FlowControl} :
    decode octets = .ok m ↔
      m.type ≤ 3 ∧ encodedLength ≤ octets.length ∧ defined octets = defined m.encode := by
  rw [← List.append_nil m.encode, defined_encode]
  by_cases long : encodedLength ≤ octets.length
  · obtain ⟨first, muxId, l₀, l₁, command, type, r₀, r₁, t₀, t₁, t₂, t₃, s₀, s₁, s₂, s₃, q₀, q₁, q₂,
      q₃, rest, rfl⟩ := exists_octets long
    rw [decode_octets, commandBit_and_ne_zero_iff, low_type_eq_iff, wordOfBigEndian_eq_iff,
      wordOfBigEndian_eq_iff, wordOfBigEndian_eq_iff]
    simp [defined, definedBits, full_and, bigEndian32, encodedLength, bodyLength]
    tauto
  · simp [long, decode_short (Nat.lt_of_not_ge long)]

theorem exists_decode_iff {octets : Bytes} :
    (∃ m, decode octets = .ok m) ↔
      encodedLength ≤ octets.length ∧
        (∃ first, octets[0]? = some first ∧ first &&& commandBit ≠ 0) ∧
        (octets[4]? = some 1 ∨ octets[4]? = some 2) := by
  by_cases long : encodedLength ≤ octets.length
  · obtain ⟨first, muxId, l₀, l₁, command, type, r₀, r₁, t₀, t₁, t₂, t₃, s₀, s₁, s₂, s₃, q₀, q₁, q₂,
      q₃, rest, rfl⟩ := exists_octets long
    constructor
    · rintro ⟨m, read⟩
      obtain ⟨control, -, rfl, -⟩ := (decode_octets ..).mp read
      refine ⟨long, ⟨first, rfl, control⟩, ?_⟩
      cases m.command
      · exact .inl rfl
      · exact .inr rfl
    · rintro ⟨-, ⟨_, ⟨⟩, control⟩, named⟩
      obtain ⟨name, rfl⟩ : ∃ name : FlowCommand, command = name.code := by
        rcases named with pause | resume
        · exact ⟨.pause, Option.some.inj pause⟩
        · exact ⟨.resume, Option.some.inj resume⟩
      exact ⟨{ muxId, command := name, transaction := _, type := _, sequence := _, qos := _ },
        (decode_octets ..).mpr ⟨control, rfl, rfl, rfl, rfl, rfl, rfl⟩⟩
  · simp [long, decode_short (Nat.lt_of_not_ge long)]

/-! ## There and back -/

/-- A message whose type fits is read back from its twenty octets, whatever follows them. Octets are
read if there are twenty of them, the command bit is set and the command is a known one. A message
that was read is read again from its own encoding, which has the fields of those octets, and from
all other octets with these fields but from no others. -/
theorem message_round_trips :
    (∀ (m : FlowControl) (rest : Bytes), m.encode.length = 20 ∧
      (m.type ≤ 3 → decode (m.encode ++ rest) = .ok m)) ∧
    (∀ octets : Bytes, (∃ m, decode octets = .ok m) ↔
      20 ≤ octets.length ∧ (∃ first, octets[0]? = some first ∧ first &&& 0x80 ≠ 0) ∧
        (octets[4]? = some 1 ∨ octets[4]? = some 2)) ∧
    (∀ (octets : Bytes) (m : FlowControl), decode octets = .ok m →
      decode m.encode = .ok m ∧ defined m.encode = defined octets ∧
        ∀ others : Bytes, decode others = .ok m ↔
          20 ≤ others.length ∧ defined others = defined octets) := by
  refine ⟨fun m rest => ⟨length_encode m, fun small => decode_encode_append small rest⟩,
    fun octets => exists_decode_iff, fun octets m read => ?_⟩
  obtain ⟨small, -, fields⟩ := decode_eq_ok_iff.mp read
  have again : decode m.encode = .ok m := by
    simpa using decode_encode_append small []
  refine ⟨again, fields.symm, fun others => ?_⟩
  rw [decode_eq_ok_iff, fields]
  exact and_iff_right small

/-- Twenty octets whose bits outside of the fields are set, with one more behind them. -/
theorem message_round_trips_noisy :
    let m : FlowControl :=
      { muxId := 0x81, command := .resume, transaction := 0x01020304, type := 3, sequence := 7
        qos := 0xAABBCCDD }
    let noisy : Bytes :=
      [0xFF, 0x81, 0xAB, 0xCD, 2, 0xFF, 9, 9, 1, 2, 3, 4, 0, 0, 0, 7, 0xAA, 0xBB, 0xCC, 0xDD, 0x55]
    m.type ≤ 3 ∧ decode (m.encode ++ noisy) = .ok m ∧
      decode noisy = .ok m ∧ decode m.encode = .ok m ∧ defined m.encode = defined noisy := by
  intro m noisy
  have read : decode noisy = .ok m := rfl
  obtain ⟨back, -, faithful⟩ := message_round_trips
  obtain ⟨again, fields, -⟩ := faithful noisy m read
  exact ⟨by decide, (back m noisy).2 (by decide), read, again, fields⟩

/-! ## Requests and acknowledgements -/

theorem encode_low_type (m : FlowControl) :
    ({ m with type := m.type &&& 0x03 } : FlowControl).encode = m.encode := by
  simp only [encode, UInt8.and_assoc, UInt8.and_self]

theorem low_type_eq_zero_iff (type : UInt8) : type &&& 0x03 = 0 ↔ 4 ∣ type.toNat := by
  rw [← UInt8.toNat_inj, UInt8.toNat_and, Nat.dvd_iff_mod_eq_zero]
  exact iff_of_eq (congrArg (· = 0) (Nat.and_two_pow_sub_one_eq_mod type.toNat 2))

/-- Every encoded message is read, and a request as a request. An acknowledgement is read as one
unless its type is a multiple of four. -/
theorem isRequest_decode_encode (m : FlowControl) :
    ∃ read, decode m.encode = .ok read ∧ (m.isRequest → read.isRequest) ∧
      (read.isRequest = m.isRequest ↔ (4 ∣ m.type.toNat → m.type = 0)) := by
  refine ⟨{ m with type := m.type &&& 0x03 }, ?_, ?_, ?_⟩
  · have small : m.type &&& 0x03 ≤ 3 := (low_type_eq_iff.mp rfl).1
    rw [← encode_low_type, ← List.append_nil (encode _)]
    exact decode_encode_append small []
  · intro request
    have zero : m.type = 0 := by simpa [isRequest, requestType] using request
    simp [isRequest, requestType, zero]
  · rw [← low_type_eq_zero_iff]
    by_cases zero : m.type = 0
    · simp [isRequest, requestType, zero]
    · simp [isRequest, requestType, zero]

/-- An acknowledgement of type 4 is read as a request. -/
theorem acknowledgement_read_as_request :
    let m : FlowControl :=
      { muxId := 0x81, command := .pause, transaction := 7, type := 4, sequence := 0, qos := 0 }
    m.isRequest = false ∧
      ∃ read, decode m.encode = .ok read ∧ read.isRequest = true := by
  exact ⟨rfl, _, rfl, rfl⟩

end FlowControl

end ModemLink
