import ModemLink.Store

/-!
# The order of a table

The names of a table stay in ascending order, so a table is what was put into it, in whatever order
that happened.
-/

namespace ModemLink.Table

/-- The names are in ascending order. -/
def Ascending (table : Table) : Prop :=
  table.entries.Pairwise fun first later => first.1 < later.1

variable {table : Table}

theorem Ascending.distinct (ascending : table.Ascending) :
    (table.entries.map Prod.fst).Nodup := by
  rw [List.Nodup, List.pairwise_map]
  exact ascending.imp fun {first later} before (same : first.1 = later.1) =>
    String.lt_irrefl _ (same ▸ before)

section Insert

variable {name : String} {value : StoreValue} {entries : List (String × StoreValue)}

theorem mem_insertEntry {entry : String × StoreValue}
    (member : entry ∈ insertEntry name value entries) :
    entry = (name, value) ∨ entry ∈ entries := by
  induction entries with
  | nil => exact .inl (List.mem_singleton.mp member)
  | cons first rest ih =>
      obtain ⟨n, v⟩ := first
      unfold insertEntry at member
      split at member
      · exact List.mem_cons.mp member
      · split at member
        · obtain same | later := List.mem_cons.mp member
          · exact .inl same
          · exact .inr (List.mem_cons_of_mem _ later)
        · obtain same | later := List.mem_cons.mp member
          · exact .inr (same ▸ List.mem_cons_self)
          · exact (ih later).imp_right (List.mem_cons_of_mem _)

/-- An entry whose name is above all others goes to the end. -/
theorem insertEntry_last (above : ∀ entry ∈ entries, entry.1 < name) :
    insertEntry name value entries = entries ++ [(name, value)] := by
  induction entries with
  | nil => rfl
  | cons first rest ih =>
      obtain ⟨n, v⟩ := first
      have below : n < name := above (n, v) List.mem_cons_self
      have apart : name ≠ n := fun same => String.lt_irrefl n (same ▸ below)
      rw [insertEntry, if_neg (String.lt_asymm below), if_neg apart,
        ih fun entry member => above entry (List.mem_cons_of_mem _ member)]
      rfl

theorem pairwise_insertEntry
    (ascending : entries.Pairwise fun first later => first.1 < later.1) :
    (insertEntry name value entries).Pairwise fun first later => first.1 < later.1 := by
  induction entries with
  | nil => exact List.pairwise_singleton _ _
  | cons first rest ih =>
      obtain ⟨n, v⟩ := first
      obtain ⟨below, others⟩ := List.pairwise_cons.mp ascending
      unfold insertEntry
      split
      · rename_i before
        refine List.pairwise_cons.mpr ⟨fun entry member => ?_, ascending⟩
        obtain rfl | later := List.mem_cons.mp member
        · exact before
        · exact String.lt_trans before (below entry later)
      · rename_i notBefore
        split
        · rename_i same
          subst same
          exact List.pairwise_cons.mpr ⟨below, others⟩
        · rename_i apart
          refine List.pairwise_cons.mpr ⟨fun entry member => ?_, ih others⟩
          obtain rfl | old := mem_insertEntry member
          · exact String.not_le.mp fun reverse =>
              apart (String.le_antisymm reverse (String.not_lt.mp notBefore))
          · exact below entry old

end Insert

theorem Ascending.insert (ascending : table.Ascending) (name : String) (value : StoreValue) :
    (table.insert name value).Ascending :=
  pairwise_insertEntry ascending

/-! ## Documents -/

/-- Takes in one entry of a document. -/
def addToml? (table : Table) (entry : String × Toml.Value) : Option Table :=
  (StoreValue.ofToml? entry.2).map (table.insert entry.1)

theorem ofToml?_eq (entries : Toml.Entries) : ofToml? entries = entries.foldlM addToml? {} := by
  refine congrArg (fun add => entries.foldlM add ({} : Table)) ?_
  funext table entry
  obtain ⟨name, value⟩ := entry
  simp only [addToml?]
  cases StoreValue.ofToml? value <;> rfl

/-- Whatever the order of a document, the table that is read has its names in order. -/
theorem ascending_ofToml? {entries : Toml.Entries} (read : ofToml? entries = some table) :
    table.Ascending := by
  rw [ofToml?_eq] at read
  have empty : Ascending {} := List.Pairwise.nil
  generalize ({} : Table) = start at *
  induction entries generalizing start with
  | nil =>
      cases read
      exact empty
  | cons entry entries ih =>
      rw [List.foldlM_cons] at read
      obtain ⟨next, added, read⟩ := Option.bind_eq_some_iff.mp read
      obtain ⟨value, -, rfl⟩ := Option.map_eq_some_iff.mp added
      exact ih _ read (empty.insert entry.1 value)

end ModemLink.Table
