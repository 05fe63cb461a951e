import Mathlib.Logic.Function.Basic
import ModemLink.Proofs.Store.Lookup
import ModemLink.Store.Run

/-!
# Writes that fail

The values of a store change ahead of its file, and a write that fails does not take them back. So a
value that could not be written is there for as long as the store is, and counters go on.
-/

namespace ModemLink

theorem Disk.locked_of_write {disk : Disk} {text : String} {e : DriverError}
    (failed : disk.write text = .error e) : disk.writable = false := by
  unfold Disk.write at failed
  split at failed
  · cases failed
  · rename_i locked
    exact Bool.eq_false_iff.mpr locked

namespace Store

variable {store : Store} {key : StoreKey} {value : StoreValue} {found : Option StoreValue}
  {e : DriverError}

/-- The store after a write, if it is one of those that can be read. -/
theorem get_after_set (readable : store.get key = .ok found) :
    (store.set key value).2.get = Function.update store.get key (.ok (some value)) := by
  funext other
  by_cases same : other = key
  · subst same
    rw [Function.update_self, get_set readable]
  · rw [Function.update_of_ne same, get_set_other same]

theorem increment_of_readable (readable : store.get key = .ok found) :
    store.increment key =
      ((store.set key (.number (StoreValue.next found))).1.map fun _ => StoreValue.next found,
        (store.set key (.number (StoreValue.next found))).2) := by
  simp only [increment, readable]
  rcases store.set key (.number (StoreValue.next found)) with ⟨_ | _, after⟩
  · rfl
  · rfl

/-! ## A file that cannot be written -/

/-- The values are on a file that cannot be written. -/
def Locked (store : Store) : Prop := ∃ disk, store.medium = .file disk ∧ disk.writable = false

theorem Locked.set (locked : store.Locked) (key : StoreKey) (value : StoreValue) :
    (store.set key value).1 = .error (.store "cannot be written") ∧
      (store.set key value).2.Locked := by
  obtain ⟨values, medium⟩ := store
  obtain ⟨disk, rfl, unwritable⟩ := locked
  simp only [Store.set, Disk.write, unwritable]
  exact ⟨rfl, disk, rfl, unwritable⟩

/-- Only a file fails a store that can be read. -/
theorem locked_of_set (readable : store.get key = .ok found)
    (failed : (store.set key value).1 = .error e) : store.Locked := by
  obtain ⟨values, medium⟩ := store
  cases medium with
  | memory => cases failed
  | file disk =>
      simp only [Store.set] at failed
      split at failed
      · cases failed
      · rename_i unwritten
        exact ⟨disk, rfl, Disk.locked_of_write unwritten⟩
  | refusing reason => cases readable

theorem locked_of_increment (readable : store.get key = .ok found)
    (failed : (store.increment key).1 = .error e) : store.Locked := by
  rw [increment_of_readable readable] at failed
  cases written : (store.set key (.number (StoreValue.next found))).1 with
  | ok => rw [written] at failed; cases failed
  | error reason => exact locked_of_set readable written

/-! ## Counting in vain -/

theorem Locked.count (locked : store.Locked) (readable : store.get key = .ok found) :
    ∃ after, store.answer (.increment key) = (.error (.store "cannot be written"), after) ∧
      after.Locked ∧
      after.get = Function.update store.get key (.ok (some (.number (StoreValue.next found)))) := by
  obtain ⟨failed, still⟩ := locked.set key (.number (StoreValue.next found))
  refine ⟨_, ?_, still, get_after_set readable⟩
  simp only [answer, increment_of_readable readable, failed]
  rfl

theorem answers_cons (store : Store) (request : StoreRequest) (requests : List StoreRequest) :
    store.answers (request :: requests) =
      ((store.answer request).1 :: ((store.answer request).2.answers requests).1,
        ((store.answer request).2.answers requests).2) := rfl

/-- Increments in a row that all fail count up all the same. -/
theorem Locked.counts (locked : store.Locked) (readable : store.get key = .ok found) (n : Nat) :
    (store.answers (List.replicate (n + 1) (.increment key))).1 =
        List.replicate (n + 1) (.error (.store "cannot be written")) ∧
      (store.answers (List.replicate (n + 1) (.increment key))).2.get =
        Function.update store.get key
          (.ok (some (.number (StoreValue.next found + UInt32.ofNat n)))) := by
  induction n generalizing store found with
  | zero =>
      obtain ⟨after, answered, -, values⟩ := locked.count readable
      rw [List.replicate_one, answers_cons, answered]
      exact ⟨rfl, by simpa [answers] using values⟩
  | succ n ih =>
      obtain ⟨after, answered, still, values⟩ := locked.count readable
      have here : after.get key = .ok (some (.number (StoreValue.next found))) := by
        rw [values, Function.update_self]
      obtain ⟨failed, final⟩ := ih still here
      have sum : StoreValue.next (some (.number (StoreValue.next found))) + UInt32.ofNat n =
          StoreValue.next found + UInt32.ofNat (n + 1) := by
        rw [UInt32.ofNat_add, UInt32.add_comm (UInt32.ofNat n), ← UInt32.add_assoc]
        rfl
      rw [List.replicate_succ, answers_cons, answered]
      exact ⟨by rw [failed, ← List.replicate_succ], by rw [final, values, Function.update_idem, sum]⟩

/-! ## The main statement -/

/-- If a store that can be read fails to write a value, every other key has the value it had, and the
key itself the one that could not be written. Increments that fail count up likewise, however many
there are in a row. -/
theorem failed_write_takes_effect (store : Store) (key : StoreKey) (found : Option StoreValue)
    (readable : store.get key = .ok found) :
    (∀ value e, (store.set key value).1 = .error e →
      (∀ other, other ≠ key → (store.set key value).2.get other = store.get other) ∧
      (store.set key value).2.get key = .ok (some value)) ∧
    (∀ e, (store.increment key).1 = .error e →
      (∀ other, other ≠ key → (store.increment key).2.get other = store.get other) ∧
      (store.increment key).2.get key = .ok (some (.number (StoreValue.next found))) ∧
      ∀ n, (store.answers (List.replicate (n + 1) (.increment key))).2.get =
        Function.update store.get key
          (.ok (some (.number (StoreValue.next found + UInt32.ofNat n))))) := by
  refine ⟨fun value e _ => ⟨fun other apart => get_set_other apart, get_set readable⟩, ?_⟩
  intro e failed
  have counts := (locked_of_increment readable failed).counts readable
  rw [increment_of_readable readable]
  exact ⟨fun other apart => get_set_other apart, get_set readable, fun n => (counts n).2⟩

/-- A store on a file that cannot be written, which then counts to three. -/
theorem failed_write_takes_effect_on_locked_file :
    let store : Store := { medium := .file { writable := false } }
    store.get .cid = .ok none ∧
      (store.set .cid (.text "a")).1 = .error (.store "cannot be written") ∧
      (store.set .cid (.text "a")).2.get .serialNumber = .ok none ∧
      (store.set .cid (.text "a")).2.get .cid = .ok (some (.text "a")) ∧
      (store.increment .cid).1 = .error (.store "cannot be written") ∧
      (store.answers (List.replicate 3 (.increment .cid))).2.get =
        Function.update store.get .cid (.ok (some (.number 3))) := by
  intro store
  have effect := failed_write_takes_effect store .cid none rfl
  obtain ⟨others, kept⟩ := effect.1 (.text "a") (.store "cannot be written") rfl
  obtain ⟨-, -, counts⟩ := effect.2 (.store "cannot be written") rfl
  exact ⟨rfl, rfl, others .serialNumber (by decide), kept, rfl, counts 2⟩

/-- What could not be written is not taken back. -/
theorem failed_write_is_not_undone :
    ¬ (∀ (store : Store) (key : StoreKey) (value : StoreValue) (e : DriverError),
        (store.set key value).1 = .error e →
          ∀ other, (store.set key value).2.get other = store.get other) ∧
    ¬ ∀ (store : Store) (key : StoreKey) (e : DriverError), (store.increment key).1 = .error e →
        ∀ other, (store.increment key).2.get other = store.get other := by
  refine ⟨fun undone => ?_, fun undone => ?_⟩
  · cases undone { medium := .file { writable := false } } .cid (.number 1) _ rfl .cid
  · cases undone { medium := .file { writable := false } } .cid _ rfl .cid

end Store

end ModemLink
