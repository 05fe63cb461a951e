import ModemLink.Session.Basic

/-!
# Adapter registry

Which adapters are registered, each under its bus location. A key is held by one registration at a
time, and dropping a registration removes its own entry.
-/

namespace ModemLink

/-- Entries in the order of their registration. -/
structure Registry (α : Type) where
  entries : List (AdapterKey × α) := []

namespace Registry

variable {α : Type}

def lookup (r : Registry α) (key : AdapterKey) : Option α := r.entries.lookup key

/-- A key that is held is refused. -/
def register (r : Registry α) (key : AdapterKey) (entry : α) : Except DriverError (Registry α) :=
  match r.lookup key with
  | some _ => .error .deviceBusy
  | none => .ok ⟨r.entries ++ [(key, entry)]⟩

def drop (r : Registry α) (key : AdapterKey) : Registry α :=
  ⟨r.entries.filter fun entry => entry.1 != key⟩

theorem lookup_drop (r : Registry α) (key other : AdapterKey) :
    (r.drop key).lookup other = if other = key then none else r.lookup other := by
  unfold drop lookup
  induction r.entries with
  | nil => simp
  | cons entry entries ih =>
      obtain ⟨held, registered⟩ := entry
      cases asked : other == held with
      | true =>
          obtain rfl : other = held := eq_of_beq asked
          by_cases dropped : other = key
          · simpa [List.filter_cons, dropped] using ih
          · simp [dropped]
      | false =>
          by_cases dropped : held = key
          · subst dropped
            simpa [List.filter_cons, List.lookup_cons, asked] using ih
          · simpa [List.filter_cons, dropped, List.lookup_cons, asked] using ih

theorem register_of_free {r : Registry α} {key : AdapterKey} (free : r.lookup key = none)
    (entry : α) : r.register key entry = .ok ⟨r.entries ++ [(key, entry)]⟩ := by
  simp only [register, free]

section Registered

variable {r after : Registry α} {key : AdapterKey} {entry : α}

theorem free_of_register (registered : r.register key entry = .ok after) :
    r.lookup key = none ∧ after = ⟨r.entries ++ [(key, entry)]⟩ := by
  unfold register at registered
  split at registered
  · cases registered
  · rename_i free
    cases registered
    exact ⟨free, rfl⟩

theorem lookup_register (registered : r.register key entry = .ok after) (other : AdapterKey) :
    after.lookup other = if other = key then some entry else r.lookup other := by
  obtain ⟨free, rfl⟩ := free_of_register registered
  unfold lookup at free ⊢
  by_cases same : other = key
  · subst same
    simp [List.lookup_append, free]
  · have differs : (other == key) = false := beq_false_of_ne same
    simp [List.lookup_append, List.lookup_cons, differs, same]

theorem drop_register (registered : r.register key entry = .ok after) : after.drop key = r := by
  obtain ⟨free, rfl⟩ := free_of_register registered
  have others : r.entries.filter (fun held => held.1 != key) = r.entries := by
    refine List.filter_eq_self.mpr fun held member => ?_
    have differs : (key == held.1) = false := by
      simpa using List.lookup_eq_none_iff.mp free held member
    exact bne_iff_ne.mpr (ne_of_beq_false differs).symm
  simp [drop, others]

end Registered

def update (r : Registry α) (key : AdapterKey) (f : α → α) : Registry α :=
  ⟨r.entries.map fun (k, entry) => (k, if k = key then f entry else entry)⟩

end Registry

/-- Where a power request for `key` goes. A set-device request that matches a pending record of the
adapter consumes it. -/
def Registry.filterPower (r : Registry Device) (key : AdapterKey) (request : PowerRequest) :
    PowerDisposition × Registry Device :=
  match r.lookup key with
  | none => (.notOurs, r)
  | some device =>
      let (disposition, pool) := device.pool.filter request
      (disposition, r.update key fun d => { d with pool })

end ModemLink
