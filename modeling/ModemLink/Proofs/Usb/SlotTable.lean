import Mathlib.Data.Nat.PSub
import ModemLink.Proofs.Usb.Records
import ModemLink.Usb.Interface

/-!
# The table of selected interfaces

The selection is written once more over a table in which the slot that collects endpoints is known
by its index, with every subtraction and every access checked: one that goes below zero or outside
of the table gives `none`. `select?_eq` says that no configuration whatsoever leads to one, and
`length_le_of_select` that no plan outgrows the table.
-/

namespace ModemLink.InterfacePlan

/-! ## Every access is inside -/

structure Table where
  slots : List InterfaceEntry := []
  vendor : VendorFeatures := {}
  ecm : Bool := false
  first : Bool := true
  /-- The slot that collects endpoints, unless an interface is skipped. -/
  current : Option Nat := none

namespace Table

def write? (slots : List InterfaceEntry) (index : Nat) (entry : InterfaceEntry) :
    Option (List InterfaceEntry) :=
  if index < slots.length then some (slots.set index entry) else none

def accepts (table : Table) (d : InterfaceDescriptor) : Bool :=
  if table.ecm then
    if d.interfaceClass == InterfaceDescriptor.cdcDataClass then d.alternate != 0
    else d.alternate == 0
  else d.alternate == 0 || table.slots.isEmpty

def place? (table : Table) (d : InterfaceDescriptor) : Option (Except DriverError Table) :=
  if table.accepts d then
    if maxInterfaces ≤ table.slots.length then
      some (.error (.insufficientResources s!"more than {maxInterfaces} interfaces"))
    else do
      let slots := table.slots ++ [d.entry]
      some (.ok { table with slots, current := some (← slots.length.ppred) })
  else if table.ecm then some (.ok { table with current := none })
  else do
    let last ← table.slots.length.ppred
    some (.ok { table with slots := ← write? table.slots last d.entry, current := some last })

def addInterface? (table : Table) (d : InterfaceDescriptor) : Option (Except DriverError Table) :=
  if table.first then { table with ecm := d.isEcmControl, first := false }.place? d
  else table.place? d

def addEndpoint? (table : Table) (d : EndpointDescriptor) : Option (Except DriverError Table) :=
  match table.current with
  | none => some (.ok table)
  | some slot => do
      let entry ← table.slots[slot]?
      let slots ← write? table.slots slot { entry with endpoints := entry.endpoints ++ [d.address] }
      some (.ok { table with slots })

def add? (table : Table) : Record → Option (Except DriverError Table)
  | .vendorFeature guid controlCaps dataCaps =>
      if guid = VendorFeatures.guid then
        some (.ok { table with vendor := { enabled := true, controlCaps, dataCaps } })
      else some (.ok table)
  | .interface d => table.addInterface? d
  | .endpoint d => table.addEndpoint? d
  | .other _ _ => some (.ok table)

def through? (table : Table) : List Record → Option (Except DriverError Table)
  | [] => some (.ok table)
  | record :: records => do
      match ← table.add? record with
      | .ok next => next.through? records
      | .error e => some (.error e)

end Table

/-- The selection with every access checked, those of the walk over the records included. -/
def select? (config : Bytes) : Option (Except DriverError InterfacePlan) := do
  let records ← Record.recordsAt? config (min ConfigHeader.size config.length)
  match ← ({} : Table).through? records with
  | .ok table =>
      if table.slots.isEmpty then some (.error .unrecognizedModel)
      else some (.ok { interfaces := table.slots, vendor := table.vendor, ecm := table.ecm })
  | .error e => some (.error e)

namespace Draft

def inOrder (slot : InterfaceEntry) : InterfaceEntry :=
  { slot with endpoints := slot.endpoints.reverse }

/-- The table holds the slots in order, and in each slot the endpoints in order. -/
def table (draft : Draft) : Table where
  slots := draft.slots.reverse.map inOrder
  vendor := draft.vendor
  ecm := draft.ecm
  first := !draft.begun
  current := if draft.collecting then some (draft.slots.length - 1) else none

/-- The slots fit the table, and endpoints are collected for one of them. -/
structure Sound (draft : Draft) : Prop where
  fits : draft.slots.length ≤ maxInterfaces
  collected : draft.collecting = true → draft.slots ≠ []

variable {draft next : Draft}

/-! ## Interfaces -/

theorem Sound.begin (sound : draft.Sound) (d : InterfaceDescriptor) : (draft.begin d).Sound := by
  unfold Draft.begin
  split
  · exact sound
  · exact ⟨sound.fits, sound.collected⟩

theorem Sound.place (sound : draft.Sound) {d : InterfaceDescriptor}
    (placed : draft.place d = .ok next) : next.Sound := by
  have positive : 1 ≤ maxInterfaces := by decide
  have fits := sound.fits
  unfold Draft.place at placed
  split at placed
  · split at placed
    · cases placed
    · cases placed
      exact ⟨by simp only [List.length_cons]; omega, fun _ => List.cons_ne_nil _ _⟩
  · split at placed
    · cases placed
      exact ⟨fits, nofun⟩
    · cases placed
      refine ⟨?_, fun _ => List.cons_ne_nil _ _⟩
      simp only [List.length_cons, List.length_tail]
      omega

theorem Sound.add (sound : draft.Sound) {record : Record} (added : draft.add record = .ok next) :
    next.Sound := by
  cases record with
  | vendorFeature guid controlCaps dataCaps =>
      simp only [Draft.add] at added
      split at added
      all_goals cases added; exact ⟨sound.fits, sound.collected⟩
  | interface d => exact (sound.begin d).place added
  | endpoint d =>
      cases added
      unfold addEndpoint
      split
      · rename_i slots
        have fits := sound.fits
        rw [slots] at fits
        exact ⟨fits, fun _ => List.cons_ne_nil _ _⟩
      · exact sound
  | other type data =>
      cases added
      exact sound

theorem Sound.through (sound : draft.Sound) {records : List Record}
    (folded : records.foldlM Draft.add draft = .ok next) : next.Sound := by
  induction records generalizing draft with
  | nil =>
      cases folded
      exact sound
  | cons record records ih =>
      rw [List.foldlM_cons] at folded
      cases added : draft.add record with
      | ok reached => exact ih (sound.add added) (by simpa [added, bind, Except.bind] using folded)
      | error e => simp [added, bind, Except.bind] at folded

/-! ## One record -/

theorem write?_last (slots : List InterfaceEntry) (old entry : InterfaceEntry) :
    Table.write? (slots ++ [old]) slots.length entry = some (slots ++ [entry]) := by
  rw [Table.write?, if_pos (by simp)]
  simp

theorem length_slots_table (draft : Draft) : draft.table.slots.length = draft.slots.length := by
  simp [table]

theorem accepts_table (draft : Draft) (d : InterfaceDescriptor) :
    draft.table.accepts d = draft.takesSlot d := by
  simp only [Table.accepts, takesSlot, table, List.isEmpty_map, List.isEmpty_reverse]

theorem table_collecting (draft : Draft) (slot : InterfaceEntry) (slots : List InterfaceEntry) :
    ({ draft with slots := slot :: slots, collecting := true } : Draft).table =
      { draft.table with
        slots := slots.reverse.map inOrder ++ [inOrder slot], current := some slots.length } := by
  simp [table]

theorem begin_table (draft : Draft) (d : InterfaceDescriptor) :
    (draft.begin d).table =
      if draft.table.first then { draft.table with ecm := d.isEcmControl, first := false }
      else draft.table := by
  obtain ⟨slots, vendor, ecm, begun, collecting⟩ := draft
  cases begun <;> rfl

theorem slots_ne_nil_of_takesSlot {d : InterfaceDescriptor} (taken : draft.takesSlot d = false)
    (plain : draft.ecm = false) : draft.slots ≠ [] := by
  intro empty
  simp [takesSlot, plain, empty] at taken

theorem place?_table (draft : Draft) (d : InterfaceDescriptor) :
    draft.table.place? d = some ((draft.place d).map table) := by
  rw [Table.place?, place, accepts_table, length_slots_table]
  cases taken : draft.takesSlot d with
  | true =>
      by_cases full : maxInterfaces ≤ draft.slots.length
      · simp only [full, if_true]
        rfl
      · simp only [full, if_true, if_false, Except.map, table_collecting]
        have last : (draft.table.slots ++ [d.entry]).length.ppred = some draft.slots.length := by
          rw [List.length_append, length_slots_table]
          rfl
        rw [last]
        rfl
  | false =>
      have same : draft.table.ecm = draft.ecm := rfl
      by_cases ecm : draft.ecm = true
      · simp only [same, ecm, Bool.false_eq_true, if_true, if_false]
        rfl
      · obtain ⟨old, rest, shape⟩ := List.exists_cons_of_ne_nil
          (slots_ne_nil_of_takesSlot taken (Bool.eq_false_iff.mpr ecm))
        have last : draft.slots.length.ppred = some (rest.reverse.map inOrder).length := by
          rw [shape, List.length_map, List.length_reverse]
          rfl
        have slots : draft.table.slots = rest.reverse.map inOrder ++ [inOrder old] := by
          simp [table, shape]
        simp only [same, ecm, Bool.false_eq_true, if_false, last, slots, Option.bind_eq_bind,
          Option.bind_some, write?_last, Except.map]
        simp [table, shape, ecm, inOrder, InterfaceDescriptor.entry]

theorem addInterface?_table (draft : Draft) (d : InterfaceDescriptor) :
    draft.table.addInterface? d = some ((draft.addInterface d).map table) := by
  rw [addInterface, ← place?_table, begin_table, Table.addInterface?]
  split <;> rfl

theorem addEndpoint?_table (sound : draft.Sound) (d : EndpointDescriptor) :
    draft.table.addEndpoint? d = some (.ok (draft.addEndpoint d).table) := by
  cases collecting : draft.collecting with
  | false =>
      have current : draft.table.current = none := by simp [table, collecting]
      simp only [Table.addEndpoint?, current, addEndpoint, collecting]
  | true =>
      obtain ⟨slot, rest, shape⟩ := List.exists_cons_of_ne_nil (sound.collected collecting)
      have current : draft.table.current = some (rest.reverse.map inOrder).length := by
        simp [table, collecting, shape]
      have slots : draft.table.slots = rest.reverse.map inOrder ++ [inOrder slot] := by
        simp [table, shape]
      have entry : (rest.reverse.map inOrder ++ [inOrder slot])[(rest.reverse.map inOrder).length]? =
          some (inOrder slot) := List.getElem?_concat_length
      simp only [Table.addEndpoint?, current, slots, entry, Option.bind_eq_bind, Option.bind_some,
        write?_last, addEndpoint, collecting, shape]
      simp [table, inOrder, collecting]

theorem add?_table (sound : draft.Sound) (record : Record) :
    draft.table.add? record = some ((draft.add record).map table) := by
  cases record with
  | vendorFeature guid controlCaps dataCaps =>
      simp only [Table.add?, Draft.add]
      split <;> rfl
  | interface d => exact addInterface?_table draft d
  | endpoint d => exact addEndpoint?_table sound d
  | other type data => rfl

theorem through?_table (sound : draft.Sound) (records : List Record) :
    draft.table.through? records = some ((records.foldlM Draft.add draft).map table) := by
  induction records generalizing draft with
  | nil => rfl
  | cons record records ih =>
      simp only [Table.through?, add?_table sound, List.foldlM_cons]
      cases added : draft.add record with
      | ok next => exact ih (sound.add added)
      | error e => rfl

end Draft

/-! ## A whole configuration -/

theorem sound_empty : ({} : Draft).Sound := ⟨Nat.zero_le _, nofun⟩

theorem ofRecords_ok {records : List Record} {draft : Draft}
    (folded : records.foldlM Draft.add {} = .ok draft) :
    ofRecords records =
      if draft.slots.isEmpty then .error .unrecognizedModel else .ok draft.finish := by
  simp only [ofRecords, folded, bind, Except.bind]
  split <;> rfl

theorem ofRecords_error {records : List Record} {e : DriverError}
    (folded : records.foldlM Draft.add {} = .error e) : ofRecords records = .error e := by
  simp only [ofRecords, folded, bind, Except.bind]

theorem select?_eq (config : Bytes) : select? config = some (select config) := by
  have start : ({} : Table) = ({} : Draft).table := rfl
  rw [select?, Record.recordsAt?_configuration, start, select]
  simp only [Option.bind_eq_bind, Option.bind_some, Draft.through?_table sound_empty]
  cases folded : (Record.ofConfiguration config).foldlM Draft.add {} with
  | error e =>
      rw [ofRecords_error folded]
      rfl
  | ok draft =>
      have empty : draft.table.slots.isEmpty = draft.slots.isEmpty := by
        simp only [Draft.table, List.isEmpty_map, List.isEmpty_reverse]
      rw [ofRecords_ok folded]
      simp only [Except.map, empty]
      split <;> rfl

theorem length_le_of_select {config : Bytes} {plan : InterfacePlan}
    (selected : select config = .ok plan) : plan.interfaces.length ≤ maxInterfaces := by
  unfold select at selected
  cases folded : (Record.ofConfiguration config).foldlM Draft.add {} with
  | error e =>
      rw [ofRecords_error folded] at selected
      cases selected
  | ok draft =>
      rw [ofRecords_ok folded] at selected
      split at selected
      · cases selected
      · cases selected
        simpa [Draft.finish] using (sound_empty.through folded).fits

end ModemLink.InterfacePlan
