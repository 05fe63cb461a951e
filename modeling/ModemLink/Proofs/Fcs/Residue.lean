import Mathlib.Algebra.Ring.Parity
import Mathlib.Logic.Function.Iterate
import ModemLink.Codec.BitSerial

/-!
# What the register makes of differences

The register takes in one bit after the other, and does so linearly: the remainders of two strings
differ by what the bits in which the strings differ leave in an empty register. It stays empty as
long as nothing comes in, never gets empty again by shifting, and keeps the parity of what came in.
So it is not empty after a burst of at most eight bits, nor after an odd number of them.
-/

namespace ModemLink.Fcs

/-! ## Bits on the wire -/

/-- The bits of an octet in the order of transmission, the lowest first. -/
def octetBits (octet : UInt8) : List Bool := (List.range 8).map octet.toNat.testBit

def bits (octets : Bytes) : List Bool := octets.flatMap octetBits

/-- For each bit of two strings of one length, whether they differ in it. -/
def differences (first second : Bytes) : List Bool := List.zipWith xor (bits first) (bits second)

/-- All that differ lie within eight bits in a row. -/
def Burst (differences : List Bool) : Prop :=
  ∃ start, ∀ i, differences[i]? = some true → start ≤ i ∧ i < start + 8

/-- The number that some bits spell, the lowest first. -/
def number : List Bool → Nat
  | [] => 0
  | bit :: later => bit.toNat + 2 * number later

theorem number_lt {word : List Bool} {n : Nat} (short : word.length ≤ n) :
    number word < 2 ^ n := by
  induction word generalizing n with
  | nil => exact Nat.two_pow_pos n
  | cons bit word ih =>
      cases n with
      | zero => cases short
      | succ n =>
          have := bit.toNat_lt
          have := ih (Nat.le_of_succ_le_succ short)
          rw [number, Nat.pow_succ]
          omega

theorem number_pos {word : List Bool} (member : true ∈ word) : 0 < number word := by
  induction word with
  | nil => cases member
  | cons bit word ih =>
      rw [number]
      rcases List.mem_cons.mp member with rfl | later
      · rw [Bool.toNat_true]
        omega
      · have := ih later
        omega

/-- What holds of the octets one by one holds of all. -/
theorem forall_octet {p : UInt8 → Prop} (all : ∀ n : Fin 256, p n.val.toUInt8) (octet : UInt8) :
    p octet := by
  simpa using all ⟨octet.toNat, octet.toNat_lt⟩

theorem number_octetBits (octet : UInt8) : number (octetBits octet) = octet.toNat :=
  forall_octet (p := fun octet => number (octetBits octet) = octet.toNat) (by decide +kernel) octet

theorem length_octetBits (octet : UInt8) : (octetBits octet).length = 8 := by
  simp [octetBits]

theorem length_bits (octets : Bytes) : (bits octets).length = 8 * octets.length := by
  induction octets with
  | nil => rfl
  | cons octet octets ih =>
      rw [bits, List.flatMap_cons, List.length_append, length_octetBits, ← bits, ih,
        List.length_cons]
      omega

theorem bits_injective {first second : Bytes} (same : bits first = bits second) :
    first = second := by
  induction first generalizing second with
  | nil =>
      have := congrArg List.length same
      rw [length_bits, length_bits] at this
      simpa using this
  | cons octet first ih =>
      cases second with
      | nil =>
          have := congrArg List.length same
          rw [length_bits, length_bits] at this
          simp at this
      | cons other second =>
          rw [bits, bits, List.flatMap_cons, List.flatMap_cons] at same
          obtain ⟨here, later⟩ := List.append_inj same (by simp only [length_octetBits])
          have octets := congrArg number here
          rw [number_octetBits, number_octetBits] at octets
          rw [UInt8.toNat_inj.mp octets, ih later]

/-! ## Differences -/

theorem eq_of_zipWith_xor {first second : List Bool} (lengths : first.length = second.length)
    (none : true ∉ List.zipWith xor first second) : first = second := by
  induction first generalizing second with
  | nil => exact (List.length_eq_zero_iff.mp lengths.symm).symm
  | cons a first ih =>
      cases second with
      | nil => cases lengths
      | cons b second =>
          rw [List.zipWith_cons_cons, List.mem_cons, not_or] at none
          rw [ih (Nat.succ.inj lengths) none.2]
          congr 1
          simpa using none.1

theorem true_mem_differences {first second : Bytes} (lengths : first.length = second.length)
    (different : first ≠ second) : true ∈ differences first second := by
  by_contra none
  have same : (bits first).length = (bits second).length := by
    rw [length_bits, length_bits, lengths]
  exact different (bits_injective (eq_of_zipWith_xor same none))

theorem differences_self (octets : Bytes) : true ∉ differences octets octets := by
  simp [differences]

theorem differences_append {first second : Bytes} (lengths : first.length = second.length)
    (more other : Bytes) :
    differences (first ++ more) (second ++ other) =
      differences first second ++ differences more other := by
  have same : (bits first).length = (bits second).length := by
    rw [length_bits, length_bits, lengths]
  rw [differences, bits, bits, List.flatMap_append, List.flatMap_append]
  exact List.zipWith_append same

theorem Burst.split {differences : List Bool} (burst : Burst differences) :
    ∃ early word late, differences = early ++ (word ++ late) ∧
      true ∉ early ∧ word.length ≤ 8 ∧ true ∉ late := by
  obtain ⟨start, within⟩ := burst
  refine ⟨differences.take start, (differences.drop start).take 8, differences.drop (start + 8),
    ?_, ?_, List.length_take_le _ _, ?_⟩
  · rw [← List.drop_drop, List.take_append_drop, List.take_append_drop]
  · intro member
    obtain ⟨i, found⟩ := List.mem_iff_getElem?.mp member
    rw [List.getElem?_take] at found
    split at found
    · have := (within i found).1
      omega
    · cases found
  · intro member
    obtain ⟨i, found⟩ := List.mem_iff_getElem?.mp member
    rw [List.getElem?_drop] at found
    have := (within _ found).2
    omega

theorem burst_append {early word late : List Bool} (quiet : true ∉ early)
    (short : word.length ≤ 8) (silent : true ∉ late) : Burst (early ++ (word ++ late)) := by
  refine ⟨early.length, fun i found => ?_⟩
  constructor
  · by_contra before
    rw [List.getElem?_append_left (Nat.not_le.mp before)] at found
    exact quiet (List.mem_of_getElem? found)
  · by_contra behind
    rw [List.getElem?_append_right (by omega), List.getElem?_append_right (by omega)] at found
    exact silent (List.mem_of_getElem? found)

/-- What differs in one octet only differs in a burst. -/
theorem burst_differences_octet (before : Bytes) (octet other : UInt8) (behind : Bytes) :
    Burst (differences (before ++ octet :: behind) (before ++ other :: behind)) := by
  have one : (differences [octet] [other]).length ≤ 8 := by
    simp [differences, bits, length_octetBits]
  have parts : differences (octet :: behind) (other :: behind) =
      differences [octet] [other] ++ differences behind behind :=
    @differences_append [octet] [other] rfl behind behind
  rw [differences_append rfl, parts]
  exact burst_append (differences_self before) one (differences_self behind)

/-! ## The register -/

def ofBit (bit : Bool) : UInt8 := if bit then 1 else 0

/-- Takes one bit into the register. -/
def feed (register : UInt8) (bit : Bool) : UInt8 := shift (register ^^^ ofBit bit)

/-- The polynomial, if the bit that leaves the register is set. -/
def feedback (bit : Bool) : UInt8 := if bit then polynomial else 0

theorem shift_eq (register : UInt8) :
    shift register = (register >>> 1) ^^^ feedback (register.toNat.testBit 0) :=
  forall_octet (p := fun r => shift r = (r >>> 1) ^^^ feedback (r.toNat.testBit 0))
    (by decide +kernel) register

theorem feedback_xor (a b : Bool) : feedback (a ^^ b) = feedback a ^^^ feedback b := by
  cases a <;> cases b <;> decide

theorem ofBit_xor (a b : Bool) : ofBit (a ^^ b) = ofBit a ^^^ ofBit b := by
  cases a <;> cases b <;> decide

theorem shift_xor (r s : UInt8) : shift (r ^^^ s) = shift r ^^^ shift s := by
  rw [shift_eq, shift_eq r, shift_eq s, UInt8.shiftRight_xor, UInt8.toNat_xor, Nat.testBit_xor,
    feedback_xor]
  ac_rfl

theorem feed_xor (r s : UInt8) (a b : Bool) :
    feed (r ^^^ s) (a ^^ b) = feed r a ^^^ feed s b := by
  rw [feed, feed, feed, ofBit_xor, ← shift_xor]
  congr 1
  ac_rfl

theorem foldl_feed_xor {first second : List Bool} (lengths : first.length = second.length)
    (r s : UInt8) :
    (List.zipWith xor first second).foldl feed (r ^^^ s) =
      first.foldl feed r ^^^ second.foldl feed s := by
  induction first generalizing second r s with
  | nil =>
      obtain rfl := List.length_eq_zero_iff.mp lengths.symm
      rfl
  | cons a first ih =>
      cases second with
      | nil => cases lengths
      | cons b second =>
          simp only [List.zipWith_cons_cons, List.foldl_cons, feed_xor]
          exact ih (Nat.succ.inj lengths) _ _

/-- Up to eight bits taken in one by one are a word taken in at once. -/
theorem foldl_feed_word {word : List Bool} (short : word.length ≤ 8) (register : UInt8) :
    word.foldl feed register = shift^[word.length] (register ^^^ UInt8.ofNat (number word)) := by
  induction word generalizing register with
  | nil => simp [number]
  | cons bit word ih =>
      rw [List.length_cons] at short
      -- Behind its first bit the word stands one place higher: a shift finds no bit to feed back.
      have octets : ∀ (bit : Bool) (n : Fin 128),
          UInt8.ofNat (bit.toNat + 2 * n.val) = ofBit bit ^^^ UInt8.ofNat (2 * n.val) ∧
            shift (UInt8.ofNat (2 * n.val)) = UInt8.ofNat n.val := by decide +kernel
      obtain ⟨sum, down⟩ := octets bit ⟨number word, number_lt (n := 7) (by omega)⟩
      calc (bit :: word).foldl feed register
          = shift^[word.length] (feed register bit ^^^ UInt8.ofNat (number word)) :=
            ih (by omega) _
        _ = shift^[word.length] (shift (register ^^^ UInt8.ofNat (number (bit :: word)))) := by
            rw [feed, number, sum, ← UInt8.xor_assoc, shift_xor (register ^^^ ofBit bit), down]

theorem remainder_eq_foldl_feed (octets : Bytes) :
    remainder octets = (bits octets).foldl feed initial := by
  have octet (register octet : UInt8) :
      (octetBits octet).foldl feed register = shiftOctet (register ^^^ octet) := by
    rw [foldl_feed_word (by rw [length_octetBits]), length_octetBits, number_octetBits,
      UInt8.ofNat_toNat]
    rfl
  rw [remainder_eq_serialRemainder, serialRemainder, bits, List.foldl_flatMap]
  simp only [octet]

/-- Two remainders differ by what the differences leave in an empty register. -/
theorem remainder_xor {first second : Bytes} (lengths : first.length = second.length) :
    remainder first ^^^ remainder second = (differences first second).foldl feed 0 := by
  rw [remainder_eq_foldl_feed, remainder_eq_foldl_feed, differences,
    ← foldl_feed_xor (by rw [length_bits, length_bits, lengths]), UInt8.xor_self]

/-! ## Registers that do not get empty -/

theorem iterate_shift_eq_zero {register : UInt8} {n : Nat} (empty : shift^[n] register = 0) :
    register = 0 := by
  have once (register : UInt8) : shift register = 0 → register = 0 :=
    forall_octet (p := fun r => shift r = 0 → r = 0) (by decide +kernel) register
  induction n generalizing register with
  | zero => exact empty
  | succ n ih => exact once _ (ih empty)

theorem foldl_feed_quiet {quiet : List Bool} (none : true ∉ quiet) (register : UInt8) :
    quiet.foldl feed register = shift^[quiet.length] register := by
  induction quiet generalizing register with
  | nil => rfl
  | cons bit quiet ih =>
      rw [List.mem_cons, not_or] at none
      obtain rfl : bit = false := by simpa using none.1
      rw [List.foldl_cons, ih none.2]
      simp [feed, ofBit]

theorem iterate_shift_zero (n : Nat) : shift^[n] 0 = 0 :=
  Function.iterate_fixed (by decide) n

/-- A burst that is not empty does not leave the register empty. -/
theorem foldl_feed_burst {differences : List Bool} (burst : Burst differences)
    (member : true ∈ differences) : differences.foldl feed 0 ≠ 0 := by
  obtain ⟨early, word, late, rfl, quiet, short, silent⟩ := burst.split
  have inside : true ∈ word := by
    rw [List.mem_append, List.mem_append] at member
    exact (member.resolve_left quiet).resolve_right silent
  intro empty
  rw [List.foldl_append, List.foldl_append, foldl_feed_quiet quiet, iterate_shift_zero,
    foldl_feed_quiet silent, foldl_feed_word short, UInt8.zero_xor] at empty
  have spelled := congrArg UInt8.toNat (iterate_shift_eq_zero (iterate_shift_eq_zero empty))
  have small := number_lt short
  have positive := number_pos inside
  rw [UInt8.toNat_ofNat', UInt8.toNat_zero] at spelled
  omega

/-! ## Parity -/

def parity (register : UInt8) : Bool := decide ((octetBits register).count true % 2 = 1)

theorem parity_feed (register : UInt8) (bit : Bool) :
    parity (feed register bit) = (parity register ^^ bit) :=
  forall_octet (p := fun r => ∀ bit, parity (feed r bit) = (parity r ^^ bit)) (by decide +kernel)
    register bit

theorem parity_foldl_feed (word : List Bool) (register : UInt8) :
    parity (word.foldl feed register) = (parity register ^^ decide (word.count true % 2 = 1)) := by
  induction word generalizing register with
  | nil => simp
  | cons bit word ih =>
      rw [List.foldl_cons, ih, parity_feed, Bool.xor_assoc]
      congr 1
      cases bit with
      | false => simp
      | true =>
          rw [List.count_cons_self]
          rcases Nat.mod_two_eq_zero_or_one (word.count true) with even | odd
          · simp [even, Nat.add_mod]
          · simp [odd, Nat.add_mod]

/-- An odd number of bits does not leave the register empty. -/
theorem foldl_feed_odd {differences : List Bool} (odd : Odd (differences.count true)) :
    differences.foldl feed 0 ≠ 0 := by
  intro empty
  have parities := parity_foldl_feed differences 0
  rw [empty, Nat.odd_iff.mp odd] at parities
  revert parities
  decide

/-- Strings of one length that differ in a burst or in an odd number of bits leave different
remainders. -/
theorem remainder_ne {first second : Bytes} (lengths : first.length = second.length)
    (different : first ≠ second)
    (few : Burst (differences first second) ∨ Odd ((differences first second).count true)) :
    remainder first ≠ remainder second := by
  intro same
  have empty := remainder_xor lengths
  rw [same, UInt8.xor_self] at empty
  rcases few with burst | odd
  · exact foldl_feed_burst burst (true_mem_differences lengths different) empty.symm
  · exact foldl_feed_odd odd empty.symm

end ModemLink.Fcs
