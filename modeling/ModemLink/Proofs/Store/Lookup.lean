import ModemLink.Store

/-!
# Lookup in the store

What a change of one value does to the others, and what counting up leaves behind.
-/

namespace ModemLink

namespace Table

theorem lookup_insertEntry (name other : String) (value : StoreValue)
    (entries : List (String × StoreValue)) :
    (insertEntry name value entries).lookup other =
      if other = name then some value else entries.lookup other := by
  induction entries with
  | nil =>
      by_cases same : other = name
      · simp [insertEntry, same]
      · simp [insertEntry, List.lookup_cons, beq_eq_false_iff_ne.mpr same, same]
  | cons entry rest ih =>
      obtain ⟨n, v⟩ := entry
      unfold insertEntry
      -- The entry goes before the first name that is not below its own.
      split
      · by_cases same : other = name
        · simp [same]
        · simp [List.lookup_cons, beq_eq_false_iff_ne.mpr same, same]
      · split <;> rename_i found
        · subst found
          by_cases same : other = name
          · simp [same]
          · simp [List.lookup_cons, beq_eq_false_iff_ne.mpr same, same]
        · rw [List.lookup_cons, List.lookup_cons, ih]
          by_cases here : other = n
          · have apart : other ≠ name := fun same => found (same.symm.trans here)
            simp [here, Ne.symm found]
          · simp [beq_eq_false_iff_ne.mpr here]

theorem get?_insert (table : Table) (name other : String) (value : StoreValue) :
    (table.insert name value).get? other =
      if other = name then some value else table.get? other :=
  lookup_insertEntry name other value table.entries

end Table

theorem StoreKey.name_injective {key other : StoreKey} (same : key.name = other.name) :
    key = other := by
  cases key <;> cases other <;> first | rfl | exact absurd same (by decide)

namespace Store

variable {store : Store} {key other : StoreKey} {value : StoreValue}

theorem get_set_other (apart : other ≠ key) :
    (store.set key value).2.get other = store.get other := by
  have names : other.name ≠ key.name := fun same => apart (StoreKey.name_injective same)
  obtain ⟨values, medium⟩ := store
  cases medium with
  | memory => simp [set, get, Table.get?_insert, names]
  | file disk =>
      simp only [set]
      split <;> simp [get, Table.get?_insert, names]
  | refusing reason => rfl

/-- A value that is set is there, even if it could not be written. -/
theorem get_set {found : Option StoreValue} (readable : store.get key = .ok found) :
    (store.set key value).2.get key = .ok (some value) := by
  obtain ⟨values, medium⟩ := store
  cases medium with
  | memory => simp [set, get, Table.get?_insert]
  | file disk =>
      simp only [set]
      split <;> simp [get, Table.get?_insert]
  | refusing reason => cases readable

end Store

end ModemLink
