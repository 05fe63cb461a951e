import ModemLink.Proofs.Usb.Selection
import ModemLink.Usb.Pipe

/-!
# One setting for each interface

Behind an ECM control interface, a plan lists the settings that count, one after the other
(`selections_of_ecm`). It so names an interface twice exactly if two settings of one count, which
no other plan does (`nodup_selections_iff`). A plan that names none twice is in the interface table
as a whole (`build_perm`).
-/

namespace ModemLink

namespace InterfaceDescriptor

/-- Behind an ECM control interface a data interface counts in its non-zero settings, and another
one in setting 0. -/
def countsBehindEcm (d : InterfaceDescriptor) : Bool :=
  if d.interfaceClass == cdcDataClass then d.alternate != 0 else d.alternate == 0

def selection (d : InterfaceDescriptor) : Selection := ⟨d.number, d.alternate⟩

end InterfaceDescriptor

namespace InterfacePlan

/-- The settings that a plan behind an ECM control interface consists of. -/
def counted (interfaces : List InterfaceDescriptor) : List InterfaceDescriptor :=
  interfaces.filter InterfaceDescriptor.countsBehindEcm

/-- No interface counts in two settings. -/
def CountOnce (interfaces : List InterfaceDescriptor) : Prop :=
  ((counted interfaces).map InterfaceDescriptor.number).Nodup

instance (interfaces : List InterfaceDescriptor) : Decidable (CountOnce interfaces) :=
  inferInstanceAs (Decidable (List.Nodup _))

theorem counted_append (interfaces more : List InterfaceDescriptor) :
    counted (interfaces ++ more) = counted interfaces ++ counted more :=
  List.filter_append ..

/-! ## Settings in the order of their records -/

variable {records : List Record} {record : Record} {draft next : Draft} {config : Bytes}
  {plan : InterfacePlan}

def Draft.selections (draft : Draft) : List Selection :=
  draft.slots.reverse.map fun slot => ⟨slot.number, slot.alternate⟩

theorem selections_finish (draft : Draft) : draft.finish.selections = draft.selections := by
  simp [Draft.finish, selections, Draft.selections]

/-- An endpoint goes to a slot that there is. -/
theorem addEndpoint_keeps (draft : Draft) (d : EndpointDescriptor) :
    let next := draft.addEndpoint d
    next.begun = draft.begun ∧ next.ecm = draft.ecm ∧ next.selections = draft.selections ∧
      (draft.slots = [] → next.slots = []) := by
  unfold Draft.addEndpoint
  split
  · rename_i shape
    exact ⟨rfl, rfl, by simp [Draft.selections, shape], by simp [shape]⟩
  · exact ⟨rfl, rfl, rfl, id⟩

/-- The first interface of the records decides, and behind an ECM control interface the slots are
the settings that count. -/
structure Follows (records : List Record) (draft : Draft) : Prop where
  fresh : draft.begun = false → Record.interfaces records = [] ∧ draft.slots = []
  begun : draft.begun = true → Record.interfaces records ≠ []
  ecm : draft.ecm = (Record.interfaces records).head?.any InterfaceDescriptor.isEcmControl
  selections : draft.ecm = true →
    draft.selections = (counted (Record.interfaces records)).map InterfaceDescriptor.selection

theorem follows_nil : Follows [] {} where
  fresh _ := ⟨rfl, rfl⟩
  begun := nofun
  ecm := rfl
  selections := nofun

/-- A record that is no interface touches neither flags nor settings. -/
theorem Follows.plain (follows : Follows records draft) (plain : record.interface? = none)
    (begun : next.begun = draft.begun) (ecm : next.ecm = draft.ecm)
    (selections : next.selections = draft.selections)
    (slots : draft.slots = [] → next.slots = []) : Follows (records ++ [record]) next := by
  have same : Record.interfaces (records ++ [record]) = Record.interfaces records := by
    simp [Record.interfaces, plain]
  constructor
  · rw [begun, same]
    exact fun unbegun => ⟨(follows.fresh unbegun).1, slots (follows.fresh unbegun).2⟩
  · rw [begun, same]
    exact follows.begun
  · rw [ecm, same]
    exact follows.ecm
  · rw [ecm, selections, same]
    exact follows.selections

variable {d : InterfaceDescriptor}

/-- Beginning with `d` decides as the records do once `d` is among them. -/
theorem Follows.ecm_begin (follows : Follows records draft) :
    (draft.begin d).ecm =
      (Record.interfaces (records ++ [.interface d])).head?.any
        InterfaceDescriptor.isEcmControl := by
  rw [Record.interfaces_append]
  unfold Draft.begin
  split
  · rename_i begun
    obtain ⟨first, rest, shape⟩ := List.exists_cons_of_ne_nil (follows.begun begun)
    rw [follows.ecm, shape]
    rfl
  · rename_i unbegun
    rw [(follows.fresh (Bool.eq_false_iff.mpr unbegun)).1]
    rfl

theorem Follows.selections_begin (follows : Follows records draft)
    (ecm : (draft.begin d).ecm = true) :
    (draft.begin d).selections =
      (counted (Record.interfaces records)).map InterfaceDescriptor.selection := by
  unfold Draft.begin at ecm ⊢
  split
  · rename_i begun
    rw [if_pos begun] at ecm
    exact follows.selections ecm
  · rename_i unbegun
    obtain ⟨none, empty⟩ := follows.fresh (Bool.eq_false_iff.mpr unbegun)
    simp [Draft.selections, none, empty, counted]

theorem begun_begin (draft : Draft) (d : InterfaceDescriptor) : (draft.begin d).begun = true := by
  unfold Draft.begin
  split
  · assumption
  · rfl

theorem takesSlot_of_ecm (ecm : draft.ecm = true) : draft.takesSlot d = d.countsBehindEcm := by
  rw [Draft.takesSlot, if_pos ecm]
  rfl

/-- An interface takes a slot if its setting counts, and leaves the others alone. -/
theorem selections_place (ecm : draft.ecm = true) (placed : draft.place d = .ok next) :
    next.selections = draft.selections ++ (counted [d]).map InterfaceDescriptor.selection := by
  unfold Draft.place at placed
  rw [takesSlot_of_ecm ecm] at placed
  cases counts : d.countsBehindEcm with
  | true =>
      rw [if_pos counts] at placed
      split at placed
      · cases placed
      · cases placed
        simp [Draft.selections, counted, counts, InterfaceDescriptor.selection,
          InterfaceDescriptor.entry]
  | false =>
      rw [if_neg (by simp [counts]), if_pos ecm] at placed
      cases placed
      simp [Draft.selections, counted, counts]

theorem place_keeps (placed : draft.place d = .ok next) :
    next.begun = draft.begun ∧ next.ecm = draft.ecm := by
  unfold Draft.place at placed
  split at placed
  · split at placed
    · cases placed
    · cases placed
      exact ⟨rfl, rfl⟩
  · split at placed
    all_goals cases placed; exact ⟨rfl, rfl⟩

theorem Follows.interface (follows : Follows records draft)
    (added : draft.addInterface d = .ok next) : Follows (records ++ [.interface d]) next := by
  rw [Draft.addInterface] at added
  obtain ⟨begun, ecm⟩ := place_keeps added
  constructor
  · intro unbegun
    simp [begun, begun_begin] at unbegun
  · intro _
    simp [Record.interfaces, Record.interface?]
  · rw [ecm, follows.ecm_begin]
  · intro chosen
    rw [ecm] at chosen
    rw [selections_place chosen added, follows.selections_begin chosen, Record.interfaces_append,
      counted_append, List.map_append]
    rfl

theorem Follows.add (follows : Follows records draft) (added : draft.add record = .ok next) :
    Follows (records ++ [record]) next := by
  cases record with
  | vendorFeature guid controlCaps dataCaps =>
      simp only [Draft.add] at added
      split at added
      all_goals cases added; exact follows.plain rfl rfl rfl rfl id
  | interface d => exact follows.interface added
  | endpoint d =>
      cases added
      obtain ⟨begun, ecm, selections, slots⟩ := addEndpoint_keeps draft d
      exact follows.plain rfl begun ecm selections slots
  | other type data =>
      cases added
      exact follows.plain rfl rfl rfl rfl id

theorem Follows.through (follows : Follows records draft) (more : List Record)
    (folded : more.foldlM Draft.add draft = .ok next) : Follows (records ++ more) next := by
  induction more generalizing records draft with
  | nil =>
      cases folded
      simpa using follows
  | cons record more ih =>
      rw [List.foldlM_cons] at folded
      cases added : draft.add record with
      | ok reached =>
          have onward := ih (follows.add added) (by simpa [added, bind, Except.bind] using folded)
          simpa using onward
      | error e => simp [added, bind, Except.bind] at folded

/-! ## Which interfaces a plan names -/

theorem exists_draft_of_select (selected : select config = .ok plan) :
    ∃ draft, (Record.ofConfiguration config).foldlM Draft.add {} = .ok draft ∧
      plan = draft.finish := by
  unfold select at selected
  cases folded : (Record.ofConfiguration config).foldlM Draft.add {} with
  | error e =>
      rw [ofRecords_error folded] at selected
      cases selected
  | ok draft =>
      rw [ofRecords_ok folded] at selected
      split at selected
      · cases selected
      · cases selected
        exact ⟨draft, rfl, rfl⟩

theorem ecm_of_select (selected : select config = .ok plan) :
    plan.ecm = (Record.interfaces (Record.ofConfiguration config)).head?.any
      InterfaceDescriptor.isEcmControl := by
  obtain ⟨draft, folded, rfl⟩ := exists_draft_of_select selected
  exact (follows_nil.through _ folded).ecm

theorem selections_of_ecm (selected : select config = .ok plan) (ecm : plan.ecm = true) :
    plan.selections = (counted (Record.interfaces (Record.ofConfiguration config))).map
      InterfaceDescriptor.selection := by
  obtain ⟨draft, folded, rfl⟩ := exists_draft_of_select selected
  rw [selections_finish]
  exact (follows_nil.through _ folded).selections ecm

theorem interface_selections (plan : InterfacePlan) :
    plan.selections.map Selection.interface = plan.interfaces.map InterfaceEntry.number := by
  simp [selections]

theorem nodup_of_plain (selected : select config = .ok plan) (plain : plan.ecm = false)
    (orderly : Orderly (Record.interfaces (Record.ofConfiguration config))) :
    (plan.selections.map Selection.interface).Nodup := by
  rw [ecm_of_select selected] at plain
  have first : ∀ d ∈ (Record.interfaces (Record.ofConfiguration config)).head?,
      d.isEcmControl = false := by
    intro d listed
    simpa [Option.mem_def.mp listed] using plain
  obtain ⟨draft, folded, rfl⟩ := exists_draft_of_select selected
  have run := foldlM_covers _ first orderly
  split at run
  · obtain ⟨draft', folded', covers⟩ := run
    rw [folded] at folded'
    cases folded'
    rw [interface_selections, show draft.finish.interfaces.map InterfaceEntry.number =
      (draft.slots.map InterfaceEntry.number).reverse by simp [Draft.finish]]
    exact List.pairwise_reverse.mpr (covers.distinct.imp Ne.symm)
  · rw [folded] at run
    cases run

/-- A plan names an interface twice exactly if it is behind an ECM control interface and an
interface counts in two settings. -/
theorem nodup_selections_iff (selected : select config = .ok plan)
    (orderly : Orderly (Record.interfaces (Record.ofConfiguration config))) :
    (plan.selections.map Selection.interface).Nodup ↔
      (plan.ecm = true → CountOnce (Record.interfaces (Record.ofConfiguration config))) := by
  cases ecm : plan.ecm with
  | false => simp [nodup_of_plain selected ecm orderly]
  | true =>
      rw [selections_of_ecm selected ecm, List.map_map]
      exact ⟨fun once _ => once, fun once => once rfl⟩

end InterfacePlan

/-! ## The interface table -/

theorem insertInterface_perm {entry : InterfaceEntry} {table : List InterfaceEntry}
    (fresh : entry.number ∉ table.map InterfaceEntry.number) :
    (insertInterface entry table).Perm (entry :: table) := by
  induction table with
  | nil => rfl
  | cons e rest ih =>
      rw [List.map_cons, List.mem_cons, not_or] at fresh
      rw [insertInterface]
      split
      · rfl
      · rw [if_neg fresh.1]
        exact ((ih fresh.2).cons e).trans (.swap entry e rest)

theorem foldl_insertInterface_perm {entries table : List InterfaceEntry}
    (distinct : ((entries ++ table).map InterfaceEntry.number).Nodup) :
    (entries.foldl (fun table entry => insertInterface entry table) table).Perm
      (entries ++ table) := by
  induction entries generalizing table with
  | nil => rfl
  | cons entry entries ih =>
      rw [List.cons_append, List.map_cons, List.nodup_cons] at distinct
      obtain ⟨fresh, distinct⟩ := distinct
      have inserted : (insertInterface entry table).Perm (entry :: table) :=
        insertInterface_perm fun known => fresh (by simp [known])
      -- The new table has the entry on top, as far as its numbers go.
      have moved : (entries ++ insertInterface entry table).Perm (entry :: (entries ++ table)) :=
        (inserted.append_left entries).trans List.perm_middle
      refine (ih ?_).trans moved
      exact (moved.map _).nodup_iff.mpr (List.nodup_cons.mpr ⟨fresh, distinct⟩)

/-- A table built from a plan that names no interface twice has all entries of the plan. -/
theorem UsbConfiguration.build_perm {header : ConfigHeader} {plan : InterfacePlan}
    {pipes : List Pipe} {mux : MuxConfig} {config : UsbConfiguration}
    (once : (plan.selections.map Selection.interface).Nodup)
    (built : build header plan pipes mux = .ok config) :
    config.interfaces.Perm plan.interfaces := by
  rw [InterfacePlan.interface_selections, ← List.append_nil plan.interfaces] at once
  obtain ⟨infos, -, -, rfl⟩ := build_ok built
  exact (foldl_insertInterface_perm once).trans (.of_eq (List.append_nil _))

end ModemLink
