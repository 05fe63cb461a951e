import Mathlib.Data.List.DropRight
import ModemLink.Proofs.Frame.Grammar
import ModemLink.Proofs.Text.Utf16
import ModemLink.Proofs.Usb.Records
import ModemLink.Usb.StringDescriptor

/-!
# Texts in string descriptors

A text of at most 126 code units is read back from its descriptor exactly if trimming leaves it as
it is (`parse?_build`, `textOfUnits_encode_iff`). Of any octets whatsoever the reader looks at the
length, the type and the whole code units in between (`parse?_congr`). It is written once more with
every octet and every slice taken by position, where an access outside of the octets gives `none`;
`parseAt?_eq` says that there is no such access.
-/

namespace ModemLink

/-! ## Trimming -/

namespace Text

variable {drop : Char → Bool} {cs : List Char}

theorem trimEnd_isPrefix (drop : Char → Bool) (cs : List Char) : trimEnd drop cs <+: cs :=
  List.rdropWhile_prefix drop cs

theorem trimEnd_eq_self_iff :
    trimEnd drop cs = cs ↔ ∀ c, cs.getLast? = some c → drop c = false := by
  change cs.rdropWhile drop = cs ↔ _
  rw [List.rdropWhile_eq_self_iff]
  constructor
  · intro kept c found
    have present : cs ≠ [] := by
      rintro rfl
      cases found
    rw [List.getLast?_eq_some_getLast present, Option.some.injEq] at found
    simpa [found] using kept present
  · intro kept present
    simpa using kept _ (List.getLast?_eq_some_getLast present)

theorem dropWhile_eq_self_iff :
    cs.dropWhile drop = cs ↔ ∀ c, cs.head? = some c → drop c = false := by
  rw [List.dropWhile_eq_self_iff]
  cases cs with
  | nil => simp
  | cons c rest => simp

theorem trimBlank_eq_self_iff :
    trimBlank cs = cs ↔
      (∀ c, cs.head? = some c → isBlank c = false) ∧
        ∀ c, cs.getLast? = some c → isBlank c = false := by
  rw [← dropWhile_eq_self_iff, ← trimEnd_eq_self_iff]
  constructor
  · intro kept
    have short : cs.length ≤ (cs.dropWhile isBlank).length := by
      have := (trimEnd_isPrefix isBlank (cs.dropWhile isBlank)).length_le
      rwa [← trimBlank, kept] at this
    have begun : cs.dropWhile isBlank = cs := (List.dropWhile_suffix _).eq_of_length_le short
    rw [trimBlank, begun] at kept
    exact ⟨begun, kept⟩
  · rintro ⟨begun, ended⟩
    rw [trimBlank, begun, ended]

theorem length_trimBlank_le : (trimBlank cs).length ≤ cs.length :=
  ((trimEnd_isPrefix isBlank _).length_le).trans (List.dropWhile_suffix _).length_le

end Text

namespace StringDescriptor

open ModemLink.Frame (slice? slice?_eq)

/-! ## Code units -/

/-- The text of code units, without trailing NULs and outer blanks; `none` for no text at all. -/
def textOfUnits (words : List UInt16) : Option String :=
  match Text.trimBlank (Text.trimEnd (· == '\x00') (Utf16.decodeChars words)) with
  | [] => none
  | kept => some (String.ofList kept)

/-- A text of which nothing is trimmed. -/
structure IsTrimmed (text : String) : Prop where
  present : text ≠ ""
  first : ∀ c, text.toList.head? = some c → Text.isBlank c = false
  last : ∀ c, text.toList.getLast? = some c → Text.isBlank c = false ∧ c ≠ '\x00'

theorem textOfUnits_eq_some_iff {words : List UInt16} {text : String} :
    textOfUnits words = some text ↔
      text ≠ "" ∧
        Text.trimBlank (Text.trimEnd (· == '\x00') (Utf16.decodeChars words)) = text.toList := by
  rw [textOfUnits]
  cases Text.trimBlank (Text.trimEnd (· == '\x00') (Utf16.decodeChars words)) with
  | nil =>
      simp only [reduceCtorEq, false_iff]
      rintro ⟨present, none⟩
      exact present (String.toList_eq_nil_iff.mp none.symm)
  | cons c rest =>
      rw [Option.some.injEq, ← String.toList_inj, String.toList_ofList]
      constructor
      · intro same
        refine ⟨?_, same⟩
        rintro rfl
        cases same
      · exact And.right

theorem textOfUnits_encode_iff {text : String} :
    textOfUnits (Utf16.encode text) = some text ↔ IsTrimmed text := by
  rw [textOfUnits_eq_some_iff, Utf16.decodeChars_encode]
  constructor
  · rintro ⟨present, kept⟩
    -- What the first pass takes away the second cannot bring back.
    have noNul : Text.trimEnd (· == '\x00') text.toList = text.toList := by
      refine (Text.trimEnd_isPrefix _ _).eq_of_length_le ?_
      have := @Text.length_trimBlank_le (Text.trimEnd (· == '\x00') text.toList)
      rwa [kept] at this
    rw [noNul, Text.trimBlank_eq_self_iff] at kept
    refine ⟨present, kept.1, fun c found => ⟨kept.2 c found, ?_⟩⟩
    simpa using Text.trimEnd_eq_self_iff.mp noNul c found
  · rintro ⟨present, first, last⟩
    have noNul : Text.trimEnd (· == '\x00') text.toList = text.toList :=
      Text.trimEnd_eq_self_iff.mpr fun c found => by simpa using (last c found).2
    rw [noNul, Text.trimBlank_eq_self_iff]
    exact ⟨present, first, fun c found => (last c found).1⟩

theorem wordOfOctets_littleEndian (w : UInt16) :
    wordOfOctets w.toUInt8 (w >>> 8).toUInt8 = w := by
  have bound := w.toNat_lt
  refine Record.wordOfOctets_eq ?_
  simp only [UInt16.toNat_toUInt8, UInt16.toNat_shiftRight, UInt16.reduceToNat, Nat.reduceMod,
    Nat.shiftRight_eq_div_pow]
  omega

theorem units_octets (words : List UInt16) : units (words.flatMap littleEndian16) = words := by
  induction words with
  | nil => rfl
  | cons w words ih =>
      simp only [List.flatMap_cons, littleEndian16, List.cons_append, List.nil_append, units, ih,
        wordOfOctets_littleEndian]

theorem length_octets (words : List UInt16) :
    (words.flatMap littleEndian16).length = 2 * words.length := by
  induction words with
  | nil => rfl
  | cons w words ih =>
      simp only [List.flatMap_cons, List.length_append, ih, littleEndian16, List.length_cons,
        List.length_nil]
      omega

/-- A last lone octet is not read. -/
theorem units_take (octets : Bytes) :
    units (octets.take (2 * (octets.length / 2))) = units octets := by
  match octets with
  | [] => rfl
  | [_] => simp [units]
  | lo :: hi :: rest =>
      have more : 2 * ((rest.length + 1 + 1) / 2) = 2 * (rest.length / 2) + 1 + 1 := by omega
      simp only [List.length_cons, more, List.take_succ_cons, units, units_take rest]

/-! ## Reading -/

theorem parse?_cons (length type : UInt8) (rest : Bytes) :
    parse? (length :: type :: rest) =
      if type = DescriptorKind.string.code ∧ 2 ≤ length.toNat then
        textOfUnits (units (rest.take (length.toNat - 2)))
      else none := by
  by_cases valid : type = DescriptorKind.string.code ∧ 2 ≤ length.toNat
  · obtain ⟨n, size⟩ : ∃ n, length.toNat = n + 2 := ⟨length.toNat - 2, by omega⟩
    have text : body (length :: type :: rest) = rest.take (length.toNat - 2) := by
      simp only [body, List.headD_cons, size, List.take_succ_cons, List.drop_succ_cons,
        List.drop_zero, Nat.add_sub_cancel]
    simp only [parse?, if_pos valid, text]
    rfl
  · simp only [parse?, if_neg valid]

/-- A text that its length octet can count is read back as what its code units spell. -/
theorem parse?_build {text : String} (counted : (Utf16.encode text).length ≤ 126) :
    parse? (build text) = textOfUnits (Utf16.encode text) := by
  let octets := (Utf16.encode text).flatMap littleEndian16
  have size : octets.length = 2 * (Utf16.encode text).length := length_octets _
  have length : (octets.length + 2).toUInt8.toNat = octets.length + 2 := by
    rw [Nat.toUInt8, UInt8.toNat_ofNat']
    omega
  change parse? ((octets.length + 2).toUInt8 :: DescriptorKind.string.code :: octets) = _
  rw [parse?_cons, if_pos ⟨rfl, by omega⟩, length, Nat.add_sub_cancel, List.take_length,
    units_octets]

/-- The octets of the whole code units that the length octet leaves to the text. -/
def wholeOctets (bytes : Bytes) : Bytes :=
  let last := min (bytes.headD 0).toNat bytes.length
  (bytes.drop 2).take (2 * ((last - 2) / 2))

theorem units_wholeOctets (length type : UInt8) (rest : Bytes) :
    units (rest.take (length.toNat - 2)) = units (wholeOctets (length :: type :: rest)) := by
  have size : (rest.take (length.toNat - 2)).length =
      min length.toNat (length :: type :: rest).length - 2 := by
    simp only [List.length_take, List.length_cons]
    omega
  rw [← units_take, size, wholeOctets, List.take_take]
  simp only [List.headD_cons, List.drop_succ_cons, List.drop_zero]
  congr 2
  omega

theorem parse?_congr {bytes other : Bytes} (length : bytes[0]? = other[0]?)
    (type : bytes[1]? = other[1]?) (whole : wholeOctets bytes = wholeOctets other) :
    parse? bytes = parse? other := by
  match bytes, other with
  | [], [] => rfl
  | [_], [_] => rfl
  | [], _ :: _ | [_], [] | _ :: _ :: _, [] => simp at length
  | [_], _ :: _ :: _ | _ :: _ :: _, [_] => simp at type
  | _ :: _ :: _, _ :: _ :: _ =>
      obtain rfl := Option.some.inj length
      obtain rfl := Option.some.inj type
      rw [parse?_cons, parse?_cons, units_wholeOctets, units_wholeOctets, whole]

/-! ## Every access is inside -/

def unitAt? (octets : Bytes) (i : Nat) : Option UInt16 := do
  some (wordOfOctets (← octets[2 * i]?) (← octets[2 * i + 1]?))

def unitsAt? (octets : Bytes) : Option (List UInt16) :=
  (List.range (octets.length / 2)).mapM (unitAt? octets)

def parseAt? (bytes : Bytes) : Option (Option String) :=
  if bytes.length < 2 then some none
  else do
    if (← bytes[1]?) ≠ DescriptorKind.string.code then some none
    else do
      let last := min (← bytes[0]?).toNat bytes.length
      if last < 2 then some none
      else do
        let octets ← slice? bytes 2 last
        some (textOfUnits (← unitsAt? octets))

theorem unitAt?_succ (lo hi : UInt8) (rest : Bytes) (i : Nat) :
    unitAt? (lo :: hi :: rest) (i + 1) = unitAt? rest i := by
  have next : 2 * (i + 1) = 2 * i + 1 + 1 := by omega
  simp only [unitAt?, next, List.getElem?_cons_succ]

theorem unitsAt?_eq (octets : Bytes) : unitsAt? octets = some (units octets) := by
  match octets with
  | [] => rfl
  | [_] => simp [unitsAt?, units]
  | lo :: hi :: rest =>
      have more : (rest.length + 1 + 1) / 2 = rest.length / 2 + 1 := by omega
      have later : (List.range (rest.length / 2)).mapM (unitAt? rest) = some (units rest) :=
        unitsAt?_eq rest
      have first : unitAt? (lo :: hi :: rest) 0 = some (wordOfOctets lo hi) := rfl
      simp only [unitsAt?, List.length_cons, more, List.range_succ_eq_map, List.mapM_cons,
        List.mapM_map, Function.comp_def, Nat.succ_eq_add_one, unitAt?_succ, later, first]
      rfl

theorem slice?_text (length type : UInt8) (rest : Bytes) (long : 2 ≤ length.toNat) :
    slice? (length :: type :: rest) 2 (min length.toNat (length :: type :: rest).length) =
      some (rest.take (length.toNat - 2)) := by
  have inside : 2 ≤ min length.toNat (length :: type :: rest).length := by
    rw [List.length_cons, List.length_cons]
    omega
  rw [slice?_eq inside (Nat.min_le_right _ _), List.drop_take, List.drop_succ_cons,
    List.drop_succ_cons, List.drop_zero, Option.some.injEq, List.take_eq_take_iff,
    List.length_cons, List.length_cons]
  omega

/-- No access leaves the octets, and what is read by position is what the reader gives. -/
theorem parseAt?_eq (bytes : Bytes) : parseAt? bytes = some (parse? bytes) := by
  match bytes with
  | [] | [_] => rfl
  | length :: type :: rest =>
      have header : ¬ (length :: type :: rest).length < 2 := by simp
      rw [parse?_cons, parseAt?, if_neg header]
      simp only [List.getElem?_cons_succ, List.getElem?_cons_zero, Option.bind_eq_bind,
        Option.bind_some]
      by_cases other : type ≠ DescriptorKind.string.code
      · rw [if_pos other, if_neg fun valid => other valid.1]
      rw [if_neg other]
      by_cases long : 2 ≤ length.toNat
      · have counted : ¬ min length.toNat (length :: type :: rest).length < 2 := by
          rw [List.length_cons, List.length_cons]
          omega
        rw [if_neg counted, if_pos ⟨not_not.mp other, long⟩, slice?_text length type rest long,
          Option.bind_some, unitsAt?_eq, Option.bind_some]
      · have short : min length.toNat (length :: type :: rest).length < 2 := by omega
        rw [if_pos short, if_neg fun valid => long valid.2]

/-! ## The statement -/

/-- Of the texts of at most 126 code units those are read back from their descriptors that neither
begin nor end with a blank, do not end with a NUL and are not empty. What is read from any octets
hangs on the length, the type and the whole code units that the length leaves to the text, and every
octet that is read is there. -/
theorem string_descriptors_round_trip :
    (∀ text : String, (Utf16.encode text).length ≤ 126 →
      (parse? (build text) = some text ↔ IsTrimmed text)) ∧
    (∀ bytes other : Bytes, bytes[0]? = other[0]? → bytes[1]? = other[1]? →
      wholeOctets bytes = wholeOctets other → parse? bytes = parse? other) ∧
    ∀ bytes : Bytes, parseAt? bytes = some (parse? bytes) := by
  refine ⟨?_, ?_, parseAt?_eq⟩
  · intro text counted
    rw [parse?_build counted, textOfUnits_encode_iff]
  · intro bytes other length type whole
    exact parse?_congr length type whole

/-- As many surrogate pairs as a descriptor holds, and two descriptors that differ in a lone octet
and in what lies behind it. -/
theorem string_descriptors_round_trip_pairs :
    let text := String.ofList (List.replicate 63 '😀')
    let bytes : Bytes := [7, 3, 0x41, 0, 0x42, 0, 0x43]
    let other : Bytes := [7, 3, 0x41, 0, 0x42, 0, 0x44, 0x45]
    ((Utf16.encode text).length ≤ 126 ∧ IsTrimmed text ∧ parse? (build text) = some text) ∧
    bytes[0]? = other[0]? ∧ bytes[1]? = other[1]? ∧ wholeOctets bytes = wholeOctets other ∧
      parse? bytes = parse? other := by
  intro text bytes other
  have spelled : text.toList = List.replicate 63 '😀' := String.toList_ofList
  have only : ∀ c ∈ text.toList, c = '😀' := by
    rw [spelled]
    exact fun c member => List.eq_of_mem_replicate member
  have counted : (Utf16.encode text).length ≤ 126 := by
    rw [Utf16.encode, spelled]
    decide +kernel
  have trimmed : IsTrimmed text := by
    refine ⟨?_, fun c found => ?_, fun c found => ?_⟩
    · rw [Ne, ← String.toList_eq_nil_iff, spelled]
      decide
    · rw [only c (List.mem_of_head? found)]
      decide
    · rw [only c (List.mem_of_getLast? found)]
      decide
  have whole : wholeOctets bytes = wholeOctets other := by decide
  exact ⟨⟨counted, trimmed, (string_descriptors_round_trip.1 text counted).mpr trimmed⟩,
    rfl, rfl, whole, string_descriptors_round_trip.2.1 bytes other rfl rfl whole⟩

end StringDescriptor

end ModemLink
