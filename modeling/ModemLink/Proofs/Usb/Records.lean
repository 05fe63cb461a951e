import Mathlib.Data.List.Forall2
import ModemLink.Proofs.Frame.Grammar
import ModemLink.Usb.Descriptor

/-!
# The records of a configuration

Records that lie end to end behind the header of a configuration are read one by one, each for what
its type and length make of it, up to the end or to the first record that is not there as a whole
(`walk_append`, `configuration_is_read`). The walk is written once more with every octet and every
slice taken from the buffer by position, where an access outside of the buffer gives `none`;
`recordsAt?_eq` says that there is no such access.
-/

namespace ModemLink.Record

theorem toNat_wordOfOctets (lo hi : UInt8) :
    (wordOfOctets lo hi).toNat = lo.toNat + 256 * hi.toNat := by
  have low := lo.toNat_lt
  have high := hi.toNat_lt
  have shifted : hi.toNat <<< 8 % 2 ^ 16 = 2 ^ 8 * hi.toNat := by
    rw [Nat.shiftLeft_eq, Nat.mul_comm]
    exact Nat.mod_eq_of_lt (by omega)
  simp only [wordOfOctets, UInt16.toNat_or, UInt16.toNat_shiftLeft, UInt8.toNat_toUInt16,
    UInt16.reduceToNat, Nat.reduceMod, shifted]
  rw [Nat.or_comm, ← Nat.two_pow_add_eq_or_of_lt (i := 8) low hi.toNat]
  omega

theorem wordOfOctets_eq {lo hi : UInt8} {w : UInt16}
    (spelled : w.toNat = lo.toNat + 256 * hi.toNat) : wordOfOctets lo hi = w := by
  rw [← UInt16.toNat_inj, toNat_wordOfOctets, spelled]

/-! ## What a record says -/

/-- The octets of a record, length octet included, and the record that they spell. A record too
short for its type is kept as it is. -/
inductive Reads : Bytes → Record → Prop
  | interface (length number alternate endpoints interfaceClass subclass protocol text : UInt8)
      (rest : Bytes) :
      Reads (length :: interfaceType :: number :: alternate :: endpoints :: interfaceClass ::
          subclass :: protocol :: text :: rest)
        (.interface { number, alternate, endpoints, interfaceClass, subclass, protocol })
  | endpoint (length address attributes p₀ p₁ interval : UInt8) (maxPacket : UInt16) (rest : Bytes)
      (spelled : maxPacket.toNat = p₀.toNat + 256 * p₁.toNat) :
      Reads (length :: endpointType :: address :: attributes :: p₀ :: p₁ :: interval :: rest)
        (.endpoint { address, attributes, maxPacket, interval })
  | vendorFeature (length : UInt8) (guid : Bytes) (controlCaps dataCaps : UInt8) (rest : Bytes)
      (sized : guid.length = 16) :
      Reads (length :: classSpecificType :: vendorFeatureSubtype ::
          (guid ++ controlCaps :: dataCaps :: rest))
        (.vendorFeature guid controlCaps dataCaps)
  | other (length type : UInt8) (rest : Bytes)
      (noInterface : type = interfaceType → rest.length < 7)
      (noEndpoint : type = endpointType → rest.length < 5)
      (noFeature : type = classSpecificType → rest.head? = some vendorFeatureSubtype →
        rest.length < 19) :
      Reads (length :: type :: rest) (.other type (length :: type :: rest))

theorem length_of_drop_eq {octets rest : Bytes} {a b : UInt8} {n : Nat}
    (cut : octets.drop n = a :: b :: rest) : octets.length = n + (rest.length + 2) := by
  have left := congrArg List.length cut
  simp only [List.length_drop, List.length_cons] at left
  omega

theorem types_distinct : endpointType ≠ interfaceType ∧ classSpecificType ≠ interfaceType ∧
    classSpecificType ≠ endpointType := by
  decide

theorem exists_reads {octets : Bytes} (long : 2 ≤ octets.length) :
    ∃ record, Reads octets record := by
  match octets, long with
  | length :: type :: rest, _ =>
  by_cases interface : type = interfaceType ∧ 7 ≤ rest.length
  · obtain ⟨rfl, fits⟩ := interface
    match rest, fits with
    | _ :: _ :: _ :: _ :: _ :: _ :: _ :: _, _ => exact ⟨_, .interface ..⟩
  by_cases endpoint : type = endpointType ∧ 5 ≤ rest.length
  · obtain ⟨rfl, fits⟩ := endpoint
    match rest, fits with
    | _ :: _ :: p₀ :: p₁ :: _ :: _, _ =>
      exact ⟨_, .endpoint _ _ _ p₀ p₁ _ (wordOfOctets p₀ p₁) _ (toNat_wordOfOctets p₀ p₁)⟩
  by_cases feature : type = classSpecificType ∧ rest.head? = some vendorFeatureSubtype ∧
      19 ≤ rest.length
  · obtain ⟨rfl, marked, fits⟩ := feature
    match rest, marked with
    | _ :: body, rfl =>
      have enough : 2 ≤ (body.drop 16).length := by
        rw [List.length_drop]
        simp only [List.length_cons] at fits
        omega
      match shape : body.drop 16, enough with
      | controlCaps :: dataCaps :: tail, _ =>
        have sized : (body.take 16).length = 16 := by
          rw [List.length_take, length_of_drop_eq shape]
          exact Nat.min_eq_left (Nat.le_add_right _ _)
        rw [← List.take_append_drop 16 body, shape]
        exact ⟨_, .vendorFeature length _ controlCaps dataCaps tail sized⟩
  refine ⟨_, .other length type rest ?_ ?_ ?_⟩
  · exact fun named => Nat.lt_of_not_ge fun fits => interface ⟨named, fits⟩
  · exact fun named => Nat.lt_of_not_ge fun fits => endpoint ⟨named, fits⟩
  · exact fun named marked => Nat.lt_of_not_ge fun fits => feature ⟨named, marked, fits⟩

section Kinds

variable {length type : UInt8} {rest : Bytes}

theorem ofOctets_short (noInterface : type = interfaceType → rest.length < 7) :
    ofOctets (length :: type :: rest) = ofOctets.short type (length :: type :: rest) := by
  unfold ofOctets
  split
  · rename_i shape
    cases shape
    refine if_neg fun named => ?_
    have := noInterface named
    simp only [List.length_cons] at this
    omega
  · rfl

/-- Enough octets for the fields of a feature record are also enough for an endpoint. -/
theorem short_feature (noEndpoint : type = endpointType → rest.length < 5) :
    ofOctets.short type (length :: type :: rest) =
      ofOctets.feature type (length :: type :: rest) := by
  unfold ofOctets.short
  split
  · rename_i shape
    cases shape
    refine if_neg fun named => ?_
    have := noEndpoint named
    simp only [List.length_cons] at this
    omega
  · rename_i few
    unfold ofOctets.feature
    split
    · rename_i shape
      have many : 5 ≤ rest.length := by
        have := length_of_drop_eq shape
        simp only [List.length_cons] at this
        omega
      match rest, many with
      | _ :: _ :: _ :: _ :: _ :: _, _ => exact absurd rfl (few _ _ _ _ _ _ _ _)
    · rfl

end Kinds

theorem Reads.ofOctets {octets : Bytes} {record : Record} (reads : Reads octets record) :
    ofOctets octets = record := by
  obtain ⟨endpoint, feature, apart⟩ := types_distinct
  cases reads with
  | interface => rfl
  | endpoint length address attributes p₀ p₁ interval maxPacket rest spelled =>
      rw [ofOctets_short (absurd · endpoint), ofOctets.short, if_pos rfl,
        wordOfOctets_eq spelled]
  | vendorFeature length guid controlCaps dataCaps rest sized =>
      have caps : (length :: classSpecificType :: vendorFeatureSubtype ::
          (guid ++ controlCaps :: dataCaps :: rest)).drop 19 = controlCaps :: dataCaps :: rest := by
        simp [← sized]
      rw [ofOctets_short (absurd · feature), short_feature (absurd · apart),
        ofOctets.feature, caps]
      simp [← sized]
  | other length type rest noInterface noEndpoint noFeature =>
      rw [ofOctets_short noInterface, short_feature noEndpoint, ofOctets.feature]
      split
      · rename_i shape
        have long : 19 ≤ rest.length := by
          have := length_of_drop_eq shape
          simp only [List.length_cons] at this
          omega
        refine if_neg fun ⟨named, marked⟩ => ?_
        match rest, long with
        | _ :: _, _ =>
          have := noFeature named (congrArg some marked)
          omega
      · rfl

theorem reads_iff {octets : Bytes} (long : 2 ≤ octets.length) {record : Record} :
    Reads octets record ↔ ofOctets octets = record := by
  constructor
  · exact Reads.ofOctets
  · rintro rfl
    obtain ⟨record, reads⟩ := exists_reads long
    rwa [reads.ofOctets]

theorem forall₂_reads_iff {records : List Bytes} (long : ∀ octets ∈ records, 2 ≤ octets.length)
    {items : List Record} : List.Forall₂ Reads records items ↔ records.map ofOctets = items := by
  induction records generalizing items with
  | nil => rw [List.forall₂_nil_left_iff, List.map_nil, eq_comm]
  | cons octets records ih =>
      have later := fun other member => long other (List.mem_cons_of_mem octets member)
      simp only [List.forall₂_cons_left_iff, reads_iff (long octets List.mem_cons_self), ih later,
        List.map_cons]
      constructor
      · rintro ⟨_, _, rfl, rfl, rfl⟩
        rfl
      · rintro rfl
        exact ⟨_, _, rfl, rfl, rfl⟩

/-! ## Records end to end -/

/-- The first octet counts the octets of the record. -/
def IsWhole (octets : Bytes) : Prop := 2 ≤ octets.length ∧ (octets.headD 0).toNat = octets.length

/-- No record begins: an octet or none is left, or the length octet counts too few or too many. -/
def IsBroken (tail : Bytes) : Prop :=
  tail.length < 2 ∨ (tail.headD 0).toNat < 2 ∨ tail.length < (tail.headD 0).toNat

instance (octets : Bytes) : Decidable (IsWhole octets) := inferInstanceAs (Decidable (_ ∧ _))

instance (tail : Bytes) : Decidable (IsBroken tail) := inferInstanceAs (Decidable (_ ∨ _ ∨ _))

theorem walk_eq (octets : Bytes) :
    walk octets =
      if 2 ≤ (octets.headD 0).toNat ∧ (octets.headD 0).toNat ≤ octets.length then
        ofOctets (octets.take (octets.headD 0).toNat) ::
          walk (octets.drop (octets.headD 0).toNat)
      else [] := by
  have whole : (octets.take (octets.headD 0).toNat).length = (octets.headD 0).toNat ↔
      (octets.headD 0).toNat ≤ octets.length := by
    rw [List.length_take]
    omega
  rw [walk]
  simp only [whole, dite_eq_ite]

theorem walk_append {octets : Bytes} (whole : IsWhole octets) (rest : Bytes) :
    walk (octets ++ rest) = ofOctets octets :: walk rest := by
  obtain ⟨long, counted⟩ := whole
  have head : ((octets ++ rest).headD 0).toNat = octets.length := by
    match octets, long with
    | _ :: _, _ => exact counted
  rw [walk_eq, head, List.take_left, List.drop_left, if_pos ⟨long, by simp⟩]

theorem walk_of_isBroken {tail : Bytes} (broken : IsBroken tail) : walk tail = [] := by
  rw [walk_eq, if_neg]
  unfold IsBroken at broken
  omega

theorem walk_flatten {records : List Bytes} (whole : ∀ octets ∈ records, IsWhole octets)
    {tail : Bytes} (broken : IsBroken tail) :
    walk (records.flatten ++ tail) = records.map ofOctets := by
  induction records with
  | nil => exact walk_of_isBroken broken
  | cons octets records ih =>
      rw [List.flatten_cons, List.append_assoc, walk_append (whole octets List.mem_cons_self),
        ih fun other member => whole other (List.mem_cons_of_mem _ member), List.map_cons]

/-! ## Every access is inside -/

open ModemLink.Frame (slice? slice?_eq slice?_middle getElem?_middle)

def ofOctetsAt? (octets : Bytes) : Option Record := do
  let type ← octets[1]?
  if type = interfaceType ∧ 9 ≤ octets.length then
    some (.interface {
      number := ← octets[2]?, alternate := ← octets[3]?, endpoints := ← octets[4]?
      interfaceClass := ← octets[5]?, subclass := ← octets[6]?, protocol := ← octets[7]? })
  else if type = endpointType ∧ 7 ≤ octets.length then
    some (.endpoint {
      address := ← octets[2]?, attributes := ← octets[3]?
      maxPacket := wordOfOctets (← octets[4]?) (← octets[5]?), interval := ← octets[6]? })
  else if type = classSpecificType ∧ 21 ≤ octets.length then
    if (← octets[2]?) = vendorFeatureSubtype then
      some (.vendorFeature (← slice? octets 3 19) (← octets[19]?) (← octets[20]?))
    else some (.other type octets)
  else some (.other type octets)

/-- The record at `offset`, and where the next one begins; `some none` where no record is left. -/
def nextAt? (buffer : Bytes) (offset : Nat) : Option (Option (Record × Nat)) := do
  let rest ← slice? buffer offset buffer.length
  if rest.length < 2 then some none
  else do
    let length := (← rest[0]?).toNat
    if length < 2 ∨ rest.length < length then some none
    else do
      let record ← ofOctetsAt? (← slice? rest 0 length)
      some (some (record, offset + length))

theorem Reads.ofOctetsAt? {octets : Bytes} {record : Record} (reads : Reads octets record) :
    ofOctetsAt? octets = some record := by
  obtain ⟨endpoint, feature, apart⟩ := types_distinct
  cases reads with
  | interface => rfl
  | endpoint length address attributes p₀ p₁ interval maxPacket rest spelled =>
      simp [Record.ofOctetsAt?, wordOfOctets_eq spelled, endpoint]
  | vendorFeature length guid controlCaps dataCaps rest sized =>
      let octets := length :: classSpecificType :: vendorFeatureSubtype ::
        (guid ++ controlCaps :: dataCaps :: rest)
      have identifier : slice? octets 3 19 = some guid :=
        slice?_middle (show octets = [length, classSpecificType, vendorFeatureSubtype] ++
          (guid ++ controlCaps :: dataCaps :: rest) from rfl) rfl (by simp [sized])
      have control : octets[19]? = some controlCaps :=
        getElem?_middle (show octets = ([length, classSpecificType, vendorFeatureSubtype] ++ guid) ++
          controlCaps :: dataCaps :: rest by simp [octets]) (by simp [sized])
      have data : octets[20]? = some dataCaps :=
        getElem?_middle (show octets = ([length, classSpecificType, vendorFeatureSubtype] ++ guid ++
          [controlCaps]) ++ dataCaps :: rest by simp [octets]) (by simp [sized])
      have long : 21 ≤ octets.length := by
        simp only [octets, List.length_cons, List.length_append]
        omega
      change Record.ofOctetsAt? octets = _
      have type : octets[1]? = some classSpecificType := rfl
      have subtype : octets[2]? = some vendorFeatureSubtype := rfl
      simp [Record.ofOctetsAt?, type, subtype, feature, apart, long, identifier, control, data]
  | other length type rest noInterface noEndpoint noFeature =>
      have first : ¬ (type = interfaceType ∧ 9 ≤ rest.length + 1 + 1) := fun ⟨named, long⟩ => by
        have := noInterface named
        omega
      have second : ¬ (type = endpointType ∧ 7 ≤ rest.length + 1 + 1) := fun ⟨named, long⟩ => by
        have := noEndpoint named
        omega
      simp only [Record.ofOctetsAt?, List.getElem?_cons_succ, List.getElem?_cons_zero,
        List.length_cons, Option.bind_eq_bind, Option.bind_some, if_neg first, if_neg second]
      split
      · rename_i feature
        match rest, feature with
        | mark :: rest, ⟨named, long⟩ =>
          refine if_neg fun marked => ?_
          have := noFeature named (congrArg some marked)
          simp only [List.length_cons] at this long
          omega
      · rfl

theorem ofOctetsAt?_eq {octets : Bytes} (long : 2 ≤ octets.length) :
    ofOctetsAt? octets = some (ofOctets octets) := by
  obtain ⟨record, reads⟩ := exists_reads long
  rw [reads.ofOctetsAt?, reads.ofOctets]

theorem nextAt?_eq {buffer : Bytes} {offset : Nat} (inside : offset ≤ buffer.length) :
    let rest := buffer.drop offset
    let length := (rest.headD 0).toNat
    nextAt? buffer offset =
      some (if 2 ≤ length ∧ length ≤ rest.length then
        some (ofOctets (rest.take length), offset + length) else none) := by
  intro rest length
  have cut : slice? buffer offset buffer.length = some rest := by
    rw [slice?_eq inside (Nat.le_refl _), List.take_length]
  simp only [nextAt?, cut, Option.bind_eq_bind, Option.bind_some]
  by_cases few : rest.length < 2
  · have short : ¬ (2 ≤ length ∧ length ≤ rest.length) := by omega
    rw [if_pos few, if_neg short]
  have head : rest[0]? = some (rest.headD 0) := by
    match rest, few with
    | [], few => simp at few
    | _ :: _, _ => rfl
  rw [if_neg few, head, Option.bind_some]
  change (if length < 2 ∨ rest.length < length then _ else _) = _
  by_cases broken : length < 2 ∨ rest.length < length
  · rw [if_pos broken, if_neg (by omega)]
  · have whole : 2 ≤ length ∧ length ≤ rest.length := by omega
    have long : 2 ≤ (rest.take length).length := by
      rw [List.length_take]
      omega
    rw [if_neg broken, if_pos whole, slice?_eq (Nat.zero_le _) whole.2, Option.bind_some,
      List.drop_zero, ofOctetsAt?_eq long, Option.bind_some]

theorem nextAt?_advances {buffer : Bytes} {offset next : Nat} {record : Record}
    (found : nextAt? buffer offset = some (some (record, next))) :
    offset < next ∧ next ≤ buffer.length := by
  by_cases inside : offset ≤ buffer.length
  · rw [nextAt?_eq inside, Option.some.injEq] at found
    split at found
    · rename_i whole
      cases found
      rw [List.length_drop] at whole
      omega
    · cases found
  · have outside : slice? buffer offset buffer.length = none := if_neg fun ordered => inside ordered.1
    simp [nextAt?, outside] at found

/-- All records from `offset` on, with every access checked. Each of them takes two octets of the
buffer at least. -/
def recordsAt? (buffer : Bytes) (offset : Nat) : Option (List Record) :=
  match _ : nextAt? buffer offset with
  | none => none
  | some none => some []
  | some (some (record, next)) => (recordsAt? buffer next).map (record :: ·)
termination_by buffer.length - offset
decreasing_by
  have := nextAt?_advances ‹_›
  omega

theorem recordsAt?_eq {buffer : Bytes} {offset : Nat} (inside : offset ≤ buffer.length) :
    recordsAt? buffer offset = some (walk (buffer.drop offset)) := by
  fun_induction recordsAt? buffer offset with
  | case1 offset outside =>
      rw [nextAt?_eq inside] at outside
      cases outside
  | case2 offset ended =>
      rw [nextAt?_eq inside, Option.some.injEq] at ended
      split at ended
      · cases ended
      · rename_i broken
        rw [walk_eq, if_neg broken]
  | case3 offset record next found ih =>
      have advances := nextAt?_advances found
      rw [nextAt?_eq inside, Option.some.injEq] at found
      split at found
      · rename_i whole
        cases found
        rw [ih advances.2, walk_eq (buffer.drop offset), if_pos whole, List.drop_drop]
        rfl
      · cases found

theorem recordsAt?_configuration (config : Bytes) :
    recordsAt? config (min ConfigHeader.size config.length) = some (ofConfiguration config) := by
  have cut : config.drop (min ConfigHeader.size config.length) = config.drop ConfigHeader.size := by
    rcases Nat.le_total ConfigHeader.size config.length with whole | short
    · rw [Nat.min_eq_left whole]
    · rw [Nat.min_eq_right short, List.drop_length, List.drop_of_length_le short]
  rw [recordsAt?_eq (Nat.min_le_right _ _), ofConfiguration, cut]

/-! ## The statement -/

/-- Whole records behind a header of nine octets are read one by one and in order, each as `Reads`
says, and the walk ends with them if what follows is no record. In every configuration whatsoever
the walk comes to its end and takes no octet from outside. -/
theorem configuration_is_read :
    (∀ (header tail : Bytes) (records : List Bytes), header.length = 9 →
      (∀ octets ∈ records, IsWhole octets) → IsBroken tail →
      ∀ items : List Record,
        ofConfiguration (header ++ records.flatten ++ tail) = items ↔
          List.Forall₂ Reads records items) ∧
    (∀ config : Bytes,
      recordsAt? config (min 9 config.length) = some (ofConfiguration config)) := by
  refine ⟨fun header tail records sized whole broken items => ?_, recordsAt?_configuration⟩
  have body : (header ++ records.flatten ++ tail).drop ConfigHeader.size =
      records.flatten ++ tail := by
    rw [List.append_assoc, ConfigHeader.size, ← sized, List.drop_left]
  rw [ofConfiguration, body, walk_flatten whole broken,
    forall₂_reads_iff fun octets member => (whole octets member).1]

/-- An interface, its endpoint, a vendor feature and an interface record one octet too short, with
an endpoint behind them that is cut off. -/
theorem configuration_is_read_to_cut_endpoint :
    let guid : Bytes := List.replicate 16 0xAB
    let header : Bytes := [9, 2, 57, 0, 1, 1, 0, 0x80, 50]
    let records : List Bytes := [[9, 4, 0, 0, 1, 0xFF, 0x42, 1, 0], [7, 5, 0x81, 2, 0x00, 0x02, 4],
      21 :: classSpecificType :: vendorFeatureSubtype :: (guid ++ [1, 2]),
      [8, 4, 1, 0, 0, 0xFF, 0x42, 1]]
    let tail : Bytes := [7, 5, 0x02]
    header.length = 9 ∧ (∀ octets ∈ records, IsWhole octets) ∧ IsBroken tail ∧
      ofConfiguration (header ++ records.flatten ++ tail) =
        [.interface ⟨0, 0, 1, 0xFF, 0x42, 1⟩, .endpoint ⟨0x81, 2, 512, 4⟩,
          .vendorFeature guid 1 2, .other 4 [8, 4, 1, 0, 0, 0xFF, 0x42, 1]] := by
  intro guid header records tail
  have sized : header.length = 9 := rfl
  have whole : ∀ octets ∈ records, IsWhole octets := by decide
  have broken : IsBroken tail := by decide
  refine ⟨sized, whole, broken,
    (configuration_is_read.1 header tail records sized whole broken _).mpr ?_⟩
  refine .cons (.interface ..) (.cons ?_ (.cons ?_ (.cons ?_ .nil)))
  · exact .endpoint _ _ _ _ _ _ _ _ (by decide)
  · exact .vendorFeature _ guid _ _ _ rfl
  · exact .other _ _ _ (fun _ => by decide) (by decide) (by decide)

end ModemLink.Record
