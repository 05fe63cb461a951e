import Mathlib.Data.List.Induction
import ModemLink.Proofs.Usb.SlotTable
import ModemLink.Usb.DescriptorBuilder

/-!
# Selection in order

Where each interface of a configuration begins with its alternate setting 0 and is over before the
next one begins, the selection takes every interface once, in its last setting and with the
endpoints under it, as long as the table has a slot for each (`selects_last_settings`).
-/

namespace ModemLink

namespace Record

def interface? : Record → Option InterfaceDescriptor
  | interface d => some d
  | _ => none

def address? : Record → Option UInt8
  | endpoint d => some d.address
  | _ => none

def interfaces (records : List Record) : List InterfaceDescriptor := records.filterMap interface?

def numbers (records : List Record) : List UInt8 :=
  (interfaces records).map InterfaceDescriptor.number

/-- The endpoints that `records` list, by their addresses. -/
def addresses (records : List Record) : List UInt8 := records.filterMap address?

variable {records more : List Record}

@[simp] theorem interfaces_append :
    interfaces (records ++ more) = interfaces records ++ interfaces more :=
  List.filterMap_append

@[simp] theorem numbers_append : numbers (records ++ more) = numbers records ++ numbers more := by
  simp [numbers]

theorem numbers_interface (d : InterfaceDescriptor) : numbers [.interface d] = [d.number] := rfl

@[simp] theorem addresses_append :
    addresses (records ++ more) = addresses records ++ addresses more :=
  List.filterMap_append

end Record

/-- The records of an interface are next to each other, that of alternate setting 0 is the first of
them, and the only one. -/
structure Orderly (interfaces : List InterfaceDescriptor) : Prop where
  consecutive : ∀ i j k : Fin interfaces.length, i < j → j < k →
    interfaces[i].number = interfaces[k].number → interfaces[j].number = interfaces[i].number
  begun : ∀ i : Fin interfaces.length, interfaces[i].alternate = 0 ↔
    ∀ j < i, interfaces[j].number ≠ interfaces[i].number

namespace Orderly

variable {interfaces : List InterfaceDescriptor} {d : InterfaceDescriptor}

theorem getElem_castLE (more : List InterfaceDescriptor) (i : Fin interfaces.length)
    (longer : interfaces.length ≤ (interfaces ++ more).length) :
    (interfaces ++ more)[i.castLE longer] = interfaces[i] :=
  List.getElem_append_left i.isLt

theorem of_append {more : List InterfaceDescriptor} (orderly : Orderly (interfaces ++ more)) :
    Orderly interfaces := by
  have longer : interfaces.length ≤ (interfaces ++ more).length := by simp
  have kept (i : Fin interfaces.length) := getElem_castLE more i longer
  constructor
  · intro i j k before behind same
    have between := orderly.consecutive (i.castLE longer) (j.castLE longer) (k.castLE longer)
    simp only [kept] at between
    exact between before behind same
  · intro i
    have first := orderly.begun (i.castLE longer)
    simp only [kept] at first
    rw [first]
    constructor
    · intro fresh j earlier
      have := fresh (j.castLE longer) earlier
      rwa [kept] at this
    · intro fresh j earlier
      have short : j.val < interfaces.length := Nat.lt_trans earlier i.isLt
      have := fresh ⟨j, short⟩ earlier
      rwa [← kept] at this

theorem alternate_last (orderly : Orderly (interfaces ++ [d])) :
    d.alternate = 0 ↔ d.number ∉ interfaces.map InterfaceDescriptor.number := by
  have longer : interfaces.length ≤ (interfaces ++ [d]).length := by simp
  have kept (i : Fin interfaces.length) := getElem_castLE [d] i longer
  have first := orderly.begun ⟨interfaces.length, by simp⟩
  simp only [Fin.getElem_fin, List.getElem_concat_length] at first
  rw [first]
  constructor
  · intro fresh known
    obtain ⟨e, member, same⟩ := List.mem_map.mp known
    obtain ⟨i, inside, rfl⟩ := List.getElem_of_mem member
    exact fresh (Fin.castLE longer ⟨i, inside⟩) inside ((congrArg _ (kept ⟨i, inside⟩)).trans same)
  · intro fresh j earlier same
    refine fresh (List.mem_map.mpr ⟨_, List.getElem_mem earlier, ?_⟩)
    exact (congrArg _ (kept ⟨j, earlier⟩)).symm.trans same

/-- A later setting comes right behind an earlier one of the same interface. -/
theorem number_last {e : InterfaceDescriptor} (orderly : Orderly (interfaces ++ [e] ++ [d]))
    (known : d.number ∈ (interfaces ++ [e]).map InterfaceDescriptor.number) :
    e.number = d.number := by
  obtain ⟨f, member, same⟩ := List.mem_map.mp known
  rw [List.mem_append, List.mem_singleton] at member
  rcases member with earlier | rfl
  · obtain ⟨i, inside, rfl⟩ := List.getElem_of_mem earlier
    have between := orderly.consecutive ⟨i, by simp; omega⟩ ⟨interfaces.length, by simp⟩
      ⟨interfaces.length + 1, by simp⟩ inside (Nat.lt_succ_self _)
    simp only [Fin.getElem_fin, List.append_assoc, List.getElem_append_left inside] at between
    simp only [List.getElem_append_right, Nat.le_succ, Nat.le_refl, Nat.sub_self,
      Nat.add_sub_cancel_left] at between
    exact (between same).trans same
  · exact same

end Orderly

namespace InterfacePlan

/-! ## Settings -/

/-- `entry` is a setting that `records` list together with the endpoints under it; `after` comes
behind these. -/
def Lists (records : List Record) (entry : InterfaceEntry) (after : List Record) : Prop :=
  ∃ before d under, records = before ++ .interface d :: (under ++ after) ∧
    Record.interfaces under = [] ∧
    entry = { d.entry with endpoints := Record.addresses under }

/-- Behind the endpoints under `entry` comes an interface or nothing, and no other setting of it. -/
def IsLastSetting (records : List Record) (entry : InterfaceEntry) : Prop :=
  ∃ after, Lists records entry after ∧ (∀ record ∈ after.head?, record.interface? ≠ none) ∧
    entry.number ∉ Record.numbers after

/-- A setting with another interface behind it and no other setting of its own. -/
def Closed (records : List Record) (entry : InterfaceEntry) : Prop :=
  ∃ d after, Lists records entry (.interface d :: after) ∧
    entry.number ∉ Record.numbers (.interface d :: after)

variable {records after : List Record} {record : Record} {entry : InterfaceEntry}
  {d : InterfaceDescriptor}

theorem Lists.append (lists : Lists records entry after) (more : List Record) :
    Lists (records ++ more) entry (after ++ more) := by
  obtain ⟨before, d, under, rfl, plain, rfl⟩ := lists
  exact ⟨before, d, under, by simp, plain, rfl⟩

theorem Lists.collect (lists : Lists records entry []) (plain : record.interface? = none) :
    Lists (records ++ [record])
      { entry with endpoints := entry.endpoints ++ Record.addresses [record] } [] := by
  obtain ⟨before, d, under, rfl, none, rfl⟩ := lists
  refine ⟨before, d, under ++ [record], by simp, ?_, by simp⟩
  rw [Record.interfaces_append, none, Record.interfaces, List.filterMap_cons_none plain]
  rfl

theorem lists_interface (records : List Record) (d : InterfaceDescriptor) :
    Lists (records ++ [.interface d]) d.entry [] :=
  ⟨records, d, [], by simp, rfl, rfl⟩

theorem Closed.append (closed : Closed records entry) {more : List Record}
    (other : entry.number ∉ Record.numbers more) : Closed (records ++ more) entry := by
  obtain ⟨d, after, lists, final⟩ := closed
  refine ⟨d, after ++ more, lists.append more, ?_⟩
  rw [← List.cons_append, Record.numbers_append, List.mem_append]
  exact not_or_intro final other

theorem Closed.isLastSetting (closed : Closed records entry) : IsLastSetting records entry := by
  obtain ⟨d, after, lists, final⟩ := closed
  refine ⟨_, lists, fun record first => ?_, final⟩
  cases first
  exact Option.some_ne_none d

theorem Lists.isLastSetting (lists : Lists records entry []) : IsLastSetting records entry :=
  ⟨[], lists, nofun, List.not_mem_nil⟩

/-! ## What a draft covers -/

open Draft (inOrder)

/-- The slots are the last settings so far, the newest one still open for endpoints. -/
structure Covers (records : List Record) (draft : Draft) : Prop where
  plain : draft.ecm = false
  begun : draft.begun = false → Record.interfaces records = []
  collecting : draft.slots ≠ [] → draft.collecting = true
  numbers : draft.slots.map InterfaceEntry.number = (Record.numbers records).eraseDups.reverse
  distinct : (draft.slots.map InterfaceEntry.number).Nodup
  newest : ∀ slot ∈ draft.slots.head?, Lists records (inOrder slot) []
  older : ∀ slot ∈ draft.slots.tail, Closed records (inOrder slot)

theorem covers_nil : Covers [] {} where
  plain := rfl
  begun _ := rfl
  collecting := absurd rfl
  numbers := rfl
  distinct := List.nodup_nil
  newest := nofun
  older := nofun

variable {draft next : Draft}

theorem Covers.mem_numbers (covers : Covers records draft) {number : UInt8} :
    number ∈ draft.slots.map InterfaceEntry.number ↔ number ∈ Record.numbers records := by
  rw [covers.numbers, List.mem_reverse, List.mem_eraseDups]

theorem Covers.length_slots (covers : Covers records draft) :
    draft.slots.length = (Record.numbers records).eraseDups.length := by
  rw [← List.length_map InterfaceEntry.number, covers.numbers, List.length_reverse]

/-- The slots of other interfaces are closed by an interface. -/
theorem Covers.closed (covers : Covers records draft) {slot : InterfaceEntry}
    (member : slot ∈ draft.slots) (other : slot.number ≠ d.number) :
    Closed (records ++ [.interface d]) (inOrder slot) := by
  have apart : (inOrder slot).number ∉ Record.numbers [.interface d] := by
    rwa [Record.numbers_interface, List.mem_singleton]
  cases shape : draft.slots with
  | nil => simp [shape] at member
  | cons first rest =>
      rw [shape, List.mem_cons] at member
      rcases member with rfl | member
      · have lists := covers.newest slot (by rw [shape]; rfl)
        exact ⟨d, [], lists.append _, apart⟩
      · exact (covers.older slot (by rw [shape]; exact member)).append apart

/-! ## Records without an interface -/

/-- The newest slot with more endpoints. -/
def collect (addresses : List UInt8) : List InterfaceEntry → List InterfaceEntry
  | [] => []
  | slot :: rest => { slot with endpoints := addresses.reverse ++ slot.endpoints } :: rest

theorem numbers_collect (addresses : List UInt8) (slots : List InterfaceEntry) :
    (collect addresses slots).map InterfaceEntry.number = slots.map InterfaceEntry.number := by
  cases slots <;> rfl

theorem tail_collect (addresses : List UInt8) (slots : List InterfaceEntry) :
    (collect addresses slots).tail = slots.tail := by
  cases slots <;> rfl

theorem head?_collect {addresses : List UInt8} {slots : List InterfaceEntry} {slot : InterfaceEntry}
    (first : slot ∈ (collect addresses slots).head?) :
    ∃ old ∈ slots.head?, inOrder slot =
      { inOrder old with endpoints := (inOrder old).endpoints ++ addresses } := by
  cases slots with
  | nil => cases first
  | cons old rest =>
      cases first
      exact ⟨old, rfl, by simp [inOrder]⟩

theorem add_plain (plain : record.interface? = none)
    (collecting : draft.slots ≠ [] → draft.collecting = true) :
    ∃ next, draft.add record = .ok next ∧ next.ecm = draft.ecm ∧ next.begun = draft.begun ∧
      next.collecting = draft.collecting ∧
      next.slots = collect (Record.addresses [record]) draft.slots := by
  have silent : collect [] draft.slots = draft.slots := by
    cases draft.slots <;> rfl
  cases record with
  | vendorFeature guid controlCaps dataCaps =>
      by_cases known : guid = VendorFeatures.guid
      · exact ⟨_, if_pos known, rfl, rfl, rfl, silent.symm⟩
      · exact ⟨_, if_neg known, rfl, rfl, rfl, silent.symm⟩
  | interface d => cases plain
  | endpoint d =>
      refine ⟨_, rfl, ?_⟩
      cases shape : draft.slots with
      | nil => simp [Draft.addEndpoint, shape, collect]
      | cons slot rest =>
          have collecting := collecting (by simp [shape])
          simp [Draft.addEndpoint, shape, collecting, collect, Record.addresses, Record.address?]
  | other type data => exact ⟨_, rfl, rfl, rfl, rfl, silent.symm⟩

theorem Covers.add_plain (covers : Covers records draft) (plain : record.interface? = none) :
    ∃ next, draft.add record = .ok next ∧ Covers (records ++ [record]) next := by
  obtain ⟨next, added, ecm, begun, collecting, slots⟩ :=
    InterfacePlan.add_plain plain covers.collecting
  have interfaces : Record.interfaces [record] = [] := List.filterMap_cons_none plain
  have numbers : Record.numbers [record] = [] := by rw [Record.numbers, interfaces]; rfl
  refine ⟨next, added, ?_⟩
  constructor
  · rw [ecm, covers.plain]
  · intro unbegun
    rw [Record.interfaces_append, interfaces, covers.begun (begun ▸ unbegun)]
    rfl
  · intro filled
    rw [collecting]
    exact covers.collecting fun empty => filled (by rw [slots, empty]; rfl)
  · rw [slots, numbers_collect, covers.numbers, Record.numbers_append, numbers, List.append_nil]
  · rw [slots, numbers_collect]
    exact covers.distinct
  · intro slot first
    rw [slots] at first
    obtain ⟨old, first, same⟩ := head?_collect first
    rw [same]
    exact (covers.newest old first).collect plain
  · intro slot member
    rw [slots, tail_collect] at member
    exact (covers.older slot member).append (by rw [numbers]; exact List.not_mem_nil)

/-! ## Interfaces -/

theorem Covers.begin (covers : Covers records draft)
    (first : ∀ e ∈ (Record.interfaces (records ++ [.interface d])).head?, e.isEcmControl = false) :
    Covers records (draft.begin d) ∧ (draft.begin d).begun = true := by
  unfold Draft.begin
  split
  · exact ⟨covers, ‹_›⟩
  · rename_i unbegun
    have none : Record.interfaces records = [] := covers.begun (Bool.eq_false_iff.mpr unbegun)
    have plain : d.isEcmControl = false := first d (by rw [Record.interfaces_append, none]; rfl)
    exact ⟨⟨plain, nofun, covers.collecting, covers.numbers, covers.distinct, covers.newest,
      covers.older⟩, rfl⟩

/-- A setting comes on top of slots of other interfaces. -/
theorem Covers.cons (covers : Covers records draft) (begun : draft.begun = true)
    (rest : List InterfaceEntry) (kept : rest.Sublist draft.slots)
    (others : ∀ slot ∈ rest, slot.number ≠ d.number)
    (numbers : d.number :: rest.map InterfaceEntry.number =
      (Record.numbers (records ++ [.interface d])).eraseDups.reverse) :
    Covers (records ++ [.interface d])
      { draft with slots := d.entry :: rest, collecting := true } where
  plain := covers.plain
  begun unbegun := by simp [begun] at unbegun
  collecting _ := rfl
  numbers := numbers
  distinct := by
    refine List.nodup_cons.mpr ⟨fun member => ?_, (kept.map _).nodup covers.distinct⟩
    obtain ⟨slot, member, same⟩ := List.mem_map.mp member
    exact others slot member same
  newest slot first := by
    cases first
    exact lists_interface records d
  older slot member := covers.closed (kept.subset member) (others slot member)

theorem eraseDups_concat {number : UInt8} {numbers : List UInt8} :
    (numbers ++ [number]).eraseDups =
      if number ∈ numbers then numbers.eraseDups else numbers.eraseDups ++ [number] := by
  rw [List.eraseDups_append]
  by_cases known : number ∈ numbers
  · simp [known, List.removeAll]
  · simp [known, List.removeAll, List.eraseDups_cons]

/-- The newest slot is that of the interface which was listed last. -/
theorem Covers.number_newest (covers : Covers records draft)
    (orderly : Orderly (Record.interfaces (records ++ [.interface d])))
    (known : d.number ∈ Record.numbers records) {slot : InterfaceEntry}
    (first : slot ∈ draft.slots.head?) : slot.number = d.number := by
  obtain ⟨before, e, under, rfl, plain, same⟩ := covers.newest slot first
  have listed : Record.interfaces (before ++ .interface e :: (under ++ [])) =
      Record.interfaces before ++ [e] := by
    rw [List.append_nil, ← List.singleton_append, Record.interfaces_append,
      Record.interfaces_append, plain, List.append_nil]
    rfl
  rw [Record.interfaces_append, listed] at orderly
  rw [Record.numbers, listed] at known
  exact (congrArg InterfaceEntry.number same).trans (orderly.number_last known)

theorem Covers.place_known (covers : Covers records draft) (begun : draft.begun = true)
    (orderly : Orderly (Record.interfaces (records ++ [.interface d])))
    (known : d.number ∈ Record.numbers records) :
    ∃ next, draft.place d = .ok next ∧ Covers (records ++ [.interface d]) next := by
  have later : d.alternate ≠ 0 := fun zero =>
    (Record.interfaces_append ▸ orderly).alternate_last.mp zero known
  have member := covers.mem_numbers.mpr known
  obtain ⟨slot, rest, shape⟩ : ∃ slot rest, draft.slots = slot :: rest := by
    refine List.exists_cons_of_ne_nil fun empty => ?_
    rw [empty] at member
    exact List.not_mem_nil member
  have own : slot.number = d.number := covers.number_newest orderly known (by rw [shape]; rfl)
  have distinct := covers.distinct
  rw [shape, List.map_cons, List.nodup_cons] at distinct
  -- The slot on top is the interface's own: it gives way, and no other slot has this number.
  refine ⟨_, ?_, covers.cons begun rest ?_ ?_ ?_⟩
  · simp [Draft.place, Draft.takesSlot, covers.plain, later, shape]
  · exact shape ▸ List.sublist_cons_self slot rest
  · intro other member same
    exact distinct.1 (List.mem_map.mpr ⟨other, member, same.trans own.symm⟩)
  · have numbers := covers.numbers
    rw [shape, List.map_cons, own] at numbers
    rw [numbers, Record.numbers_append, Record.numbers_interface, eraseDups_concat, if_pos known]

theorem Covers.takesSlot (covers : Covers records draft)
    (orderly : Orderly (Record.interfaces (records ++ [.interface d])))
    (new : d.number ∉ Record.numbers records) : draft.takesSlot d = true := by
  have zero : d.alternate = 0 := (Record.interfaces_append ▸ orderly).alternate_last.mpr new
  simp [Draft.takesSlot, covers.plain, zero]

theorem Covers.place_new (covers : Covers records draft) (begun : draft.begun = true)
    (orderly : Orderly (Record.interfaces (records ++ [.interface d])))
    (new : d.number ∉ Record.numbers records)
    (room : (Record.numbers records).eraseDups.length < maxInterfaces) :
    ∃ next, draft.place d = .ok next ∧ Covers (records ++ [.interface d]) next := by
  refine ⟨_, ?_, covers.cons begun draft.slots (List.Sublist.refl _) ?_ ?_⟩
  · rw [Draft.place, if_pos (covers.takesSlot orderly new),
      if_neg (by rw [covers.length_slots]; omega)]
  · rintro slot member same
    exact new (same ▸ covers.mem_numbers.mp (List.mem_map_of_mem member))
  · rw [covers.numbers, Record.numbers_append, Record.numbers_interface, eraseDups_concat,
      if_neg new, List.reverse_append]
    rfl

/-- The refusal of an interface that finds no slot. -/
def tooMany : DriverError := .insufficientResources "more than 8 interfaces"

theorem Covers.place_full (covers : Covers records draft)
    (orderly : Orderly (Record.interfaces (records ++ [.interface d])))
    (new : d.number ∉ Record.numbers records)
    (full : maxInterfaces ≤ (Record.numbers records).eraseDups.length) :
    draft.place d = .error tooMany := by
  rw [Draft.place, if_pos (covers.takesSlot orderly new), if_pos (by rwa [covers.length_slots])]
  rfl

/-- One record more: the draft covers it as well, unless it is an interface too many. -/
theorem Covers.add (covers : Covers records draft)
    (first : ∀ d ∈ (Record.interfaces (records ++ [record])).head?, d.isEcmControl = false)
    (orderly : Orderly (Record.interfaces (records ++ [record])))
    (fits : (Record.numbers records).eraseDups.length ≤ maxInterfaces) :
    if (Record.numbers (records ++ [record])).eraseDups.length ≤ maxInterfaces then
      ∃ next, draft.add record = .ok next ∧ Covers (records ++ [record]) next
    else draft.add record = .error tooMany := by
  cases listed : record.interface? with
  | none =>
      have numbers : Record.numbers (records ++ [record]) = Record.numbers records := by
        simp [Record.numbers, Record.interfaces, listed]
      rw [numbers, if_pos fits]
      exact covers.add_plain listed
  | some d =>
      obtain rfl : record = .interface d := by
        cases record <;> cases listed
        rfl
      obtain ⟨begins, begun⟩ := covers.begin first
      rw [Record.numbers_append, Record.numbers_interface, eraseDups_concat]
      by_cases known : d.number ∈ Record.numbers records
      · rw [if_pos known, if_pos fits]
        exact begins.place_known begun orderly known
      · rw [if_neg known, List.length_append, List.length_singleton]
        split
        · exact begins.place_new begun orderly known (by omega)
        · exact begins.place_full orderly known (by omega)

/-! ## A whole configuration -/

theorem foldlM_covers (records : List Record)
    (first : ∀ d ∈ (Record.interfaces records).head?, d.isEcmControl = false)
    (orderly : Orderly (Record.interfaces records)) :
    if (Record.numbers records).eraseDups.length ≤ maxInterfaces then
      ∃ draft, records.foldlM Draft.add {} = .ok draft ∧ Covers records draft
    else records.foldlM Draft.add {} = .error tooMany := by
  -- The draft depends on the records before, so the induction takes records from the end.
  induction records using List.reverseRecOn with
  | nil => exact ⟨{}, rfl, covers_nil⟩
  | append_singleton records record ih =>
      have fewer : (Record.numbers records).eraseDups.length ≤
          (Record.numbers (records ++ [record])).eraseDups.length := by
        rw [Record.numbers_append, List.eraseDups_append, List.length_append]
        exact Nat.le_add_right _ _
      have before := ih
        (fun d listed => first d (by
          rw [Record.interfaces_append, List.head?_append, Option.mem_def.mp listed]
          rfl))
        (Record.interfaces_append ▸ orderly).of_append
      have last (draft : Draft) : [record].foldlM Draft.add draft = draft.add record := by
        rw [List.foldlM_cons]
        simp only [List.foldlM_nil, bind_pure]
      rw [List.foldlM_append]
      split at before
      · rename_i fits
        obtain ⟨draft, folded, covers⟩ := before
        simp only [folded, bind, Except.bind, last]
        exact covers.add first orderly fits
      · rw [before, if_neg (by omega)]
        rfl

theorem Covers.finish (covers : Covers records draft) :
    draft.finish.interfaces.map InterfaceEntry.number = (Record.numbers records).eraseDups ∧
      ∀ entry ∈ draft.finish.interfaces, IsLastSetting records entry := by
  have interfaces : draft.finish.interfaces = draft.slots.reverse.map inOrder := rfl
  have numbers : (draft.slots.reverse.map inOrder).map InterfaceEntry.number =
      (draft.slots.map InterfaceEntry.number).reverse := by
    rw [List.map_map, List.map_reverse]
    rfl
  rw [interfaces, numbers, covers.numbers, List.reverse_reverse]
  refine ⟨rfl, fun entry member => ?_⟩
  obtain ⟨slot, reversed, rfl⟩ := List.mem_map.mp member
  have member := List.mem_reverse.mp reversed
  cases shape : draft.slots with
  | nil => simp [shape] at member
  | cons first rest =>
      rw [shape, List.mem_cons] at member
      rcases member with rfl | member
      · exact (covers.newest slot (by rw [shape]; rfl)).isLastSetting
      · exact (covers.older slot (by rw [shape]; exact member)).isLastSetting

/-- A configuration whose first interface is no ECM control interface and whose interfaces are in
order gives one entry for each interface, in order of appearance and in its last setting. It is
refused for more interfaces than the table has slots, and for none at all. No configuration
whatsoever makes the selection leave its table, or overfill it. -/
theorem selects_last_settings (config : Bytes) :
    let records := Record.ofConfiguration config
    let found := (Record.numbers records).eraseDups
    ((∀ d ∈ (Record.interfaces records).head?, d.isEcmControl = false) →
      Orderly (Record.interfaces records) →
      (1 ≤ found.length → found.length ≤ 8 →
        ∃ plan, select config = .ok plan ∧
          plan.interfaces.map InterfaceEntry.number = found ∧
          ∀ entry ∈ plan.interfaces, IsLastSetting records entry) ∧
      (∀ reason, select config = .error (.insufficientResources reason) ↔
        8 < found.length ∧ reason = "more than 8 interfaces") ∧
      (select config = .error .unrecognizedModel ↔ found.length = 0)) ∧
    select? config = some (select config) ∧
    ∀ plan, select config = .ok plan → plan.interfaces.length ≤ 8 := by
  intro records found
  refine ⟨?_, select?_eq config, fun plan => length_le_of_select⟩
  intro first orderly
  have run := foldlM_covers records first orderly
  split at run
  · rename_i fits
    obtain ⟨draft, folded, covers⟩ := run
    have counted : draft.slots.length = found.length := covers.length_slots
    have few : ¬ 8 < found.length := Nat.not_lt.mpr fits
    have selected : select config = _ := ofRecords_ok folded
    rw [selected]
    cases shape : draft.slots with
    | nil =>
        have none : found.length = 0 := by rw [← counted, shape]; rfl
        simp [none]
    | cons slot rest =>
        have some : found.length ≠ 0 := by
          rw [← counted, shape]
          exact Nat.succ_ne_zero _
        refine ⟨fun _ _ => ⟨draft.finish, rfl, covers.finish⟩, ?_, ?_⟩
        · simp [few]
        · simp [some]
  · rename_i full
    have many : 8 < found.length := Nat.lt_of_not_ge full
    have refused : select config = .error tooMany := ofRecords_error run
    rw [refused, tooMany]
    refine ⟨fun _ few => absurd many (Nat.not_lt.mpr few), fun reason => ?_, ?_⟩
    · simp [many, eq_comm]
    · simp only [Except.error.injEq, reduceCtorEq, false_iff]
      omega

/-- An interface with a second setting and an interface behind it; an endpoint and a record of
another type come before their turn. -/
theorem selects_last_settings_of_two :
    let config := ConfigPlan.build { records := [.endpoint 0x85 3 8,
      .interface 0 0 0xFF 0x42 1, .endpoint 0x81 3 8,
      .interface 0 1 0xFF 0x42 2, .endpoint 0x82 2 512, .raw [3, 0x0B, 0], .endpoint 0x02 2 512,
      .interface 1 0 0x0A 0 1, .endpoint 0x83 2 512] }
    let records := Record.ofConfiguration config
    let found := (Record.numbers records).eraseDups
    (∀ d ∈ (Record.interfaces records).head?, d.isEcmControl = false) ∧
      Orderly (Record.interfaces records) ∧ 1 ≤ found.length ∧ found.length ≤ 8 ∧
      ∃ plan, select config = .ok plan ∧ plan.interfaces.map InterfaceEntry.number = [0, 1] ∧
        (∀ entry ∈ plan.interfaces, IsLastSetting records entry) ∧ plan.interfaces.length ≤ 8 := by
  intro config records found
  have interfaces : Record.interfaces records =
      [⟨0, 0, 1, 0xFF, 0x42, 0⟩, ⟨0, 1, 2, 0xFF, 0x42, 0⟩, ⟨1, 0, 1, 0x0A, 0, 0⟩] := by
    unfold records config
    cbv
  have numbers : found = [0, 1] := by
    simp only [found, Record.numbers, interfaces]
    decide
  have first : ∀ d ∈ (Record.interfaces records).head?, d.isEcmControl = false := by
    rw [interfaces]
    decide
  have orderly : Orderly (Record.interfaces records) := by
    rw [interfaces]
    exact ⟨by decide, by decide⟩
  have some : 1 ≤ found.length := by rw [numbers]; decide
  have few : found.length ≤ 8 := by rw [numbers]; decide
  obtain ⟨settings, -, bounded⟩ := selects_last_settings config
  obtain ⟨plan, selected, entries, last⟩ := (settings first orderly).1 some few
  exact ⟨first, orderly, some, few, plan, selected, entries.trans numbers, last,
    bounded plan selected⟩

end InterfacePlan

end ModemLink
