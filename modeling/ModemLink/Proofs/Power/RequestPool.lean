import Mathlib.Data.List.Nodup
import Mathlib.Data.List.Range
import ModemLink.Power.PoolRun

/-!
# The request pool is a bounded queue

The slots of a pool are shared out between its free list and its queue of pending requests, and a
slot is live while it is in the queue. Seen as the list of its pending requests, oldest first, the
pool is a queue with room for as many requests as it has slots, from whose middle requests are taken.
-/

namespace ModemLink

namespace RequestPool

/-- The pending requests, oldest first: the handle of each and the level it asks for. -/
def entries (pool : RequestPool) : List (PowerRequestHandle × DevicePower) :=
  pool.pending.map fun index => (⟨index⟩, (pool.slot index).target)

/-- A pool of `capacity` slots, each of them either free or pending. -/
structure Sound (capacity : Nat) (pool : RequestPool) : Prop where
  size : pool.slots.size = capacity
  shared : (pool.free ++ pool.pending).Perm (List.range capacity)
  live : ∀ index, (pool.slot index).live = true ↔ index ∈ pool.pending

variable {capacity index : Nat} {target : DevicePower} {handle : PowerRequestHandle}
  {pool : RequestPool} {free before after : List Nat}

/-! ## Slots -/

theorem slot_set (inside : index < pool.slots.size) (slot : PowerSlot) (free pending : List Nat)
    (other : Nat) :
    RequestPool.slot ⟨pool.slots.setIfInBounds index slot, free, pending⟩ other =
      if other = index then slot else pool.slot other := by
  simp only [RequestPool.slot, Array.getD_eq_getD_getElem?, Array.getElem?_setIfInBounds]
  by_cases same : other = index
  · simp [same, inside]
  · simp [same, Ne.symm same]

theorem slot_release (inside : index < pool.slots.size) (other : Nat) :
    (pool.release index).slot other =
      if other = index then { pool.slot index with live := false } else pool.slot other :=
  slot_set inside _ _ _ other

/-- A release takes no level from any slot. -/
theorem target_release (inside : index < pool.slots.size) (other : Nat) :
    ((pool.release index).slot other).target = (pool.slot other).target := by
  rw [slot_release inside]
  split
  · rename_i same
    rw [same]
  · rfl

/-! ## Sound pools -/

theorem sound_ofCapacity (capacity : Nat) : (ofCapacity capacity).Sound capacity where
  size := Array.size_replicate
  shared := by simp [ofCapacity]
  live index := by
    by_cases inside : index < capacity
    · simp [ofCapacity, slot, inside]
    · simp [ofCapacity, slot, inside]

theorem Sound.inside (sound : pool.Sound capacity) (member : index ∈ pool.free ++ pool.pending) :
    index < pool.slots.size := by
  rw [sound.size]
  exact List.mem_range.mp (sound.shared.mem_iff.mp member)

theorem Sound.nodup (sound : pool.Sound capacity) : (pool.free ++ pool.pending).Nodup :=
  sound.shared.nodup_iff.mpr List.nodup_range

theorem Sound.length (sound : pool.Sound capacity) :
    pool.free.length + pool.pending.length = capacity := by
  rw [← List.length_append, sound.shared.length_eq, List.length_range]

theorem Sound.unique (sound : pool.Sound capacity)
    (queued : pool.pending = before ++ index :: after) : index ∉ before ∧ index ∉ after := by
  have distinct := (List.nodup_append.mp sound.nodup).2.1
  rw [queued] at distinct
  obtain ⟨-, others, apart⟩ := List.nodup_append.mp distinct
  refine ⟨fun earlier => ?_, (List.nodup_cons.mp others).1⟩
  exact apart _ earlier _ List.mem_cons_self rfl

/-! ## Recording a request -/

/-- The pool after a request is recorded in its first free slot. -/
def recorded (pool : RequestPool) (index : Nat) (free : List Nat) (target : DevicePower) :
    RequestPool where
  slots := pool.slots.setIfInBounds index { target, live := true }
  free
  pending := pool.pending ++ [index]

theorem answer_push_full (none : pool.free = []) (target : DevicePower) :
    pool.answer (.push target) = (.recorded (.error .powerPoolExhausted), pool) := by
  simp only [answer, push, none]

theorem answer_push_room (first : pool.free = index :: free) (target : DevicePower) :
    pool.answer (.push target) = (.recorded (.ok ⟨index⟩), pool.recorded index free target) := by
  simp only [answer, push, first, recorded]

theorem Sound.fresh (sound : pool.Sound capacity) (first : pool.free = index :: free) :
    index ∉ pool.pending := by
  have distinct := sound.nodup
  rw [first] at distinct
  exact fun pending => (List.nodup_cons.mp distinct).1 (List.mem_append_right _ pending)

theorem Sound.recorded (sound : pool.Sound capacity) (first : pool.free = index :: free)
    (target : DevicePower) : (pool.recorded index free target).Sound capacity where
  size := by simpa [RequestPool.recorded] using sound.size
  shared := by
    have moved : (free ++ (pool.pending ++ [index])).Perm (index :: free ++ pool.pending) := by
      rw [← List.append_assoc]
      exact List.perm_append_singleton index _
    rw [← first] at moved
    exact moved.trans sound.shared
  live other := by
    have inside : index < pool.slots.size := sound.inside (by simp [first])
    rw [RequestPool.recorded, slot_set inside, List.mem_append, List.mem_singleton]
    by_cases same : other = index
    · simp [same]
    · simpa [same] using sound.live other

theorem Sound.entries_recorded (sound : pool.Sound capacity) (first : pool.free = index :: free)
    (target : DevicePower) :
    (pool.recorded index free target).entries = pool.entries ++ [(⟨index⟩, target)] := by
  have inside : index < pool.slots.size := sound.inside (by simp [first])
  have others : ∀ other ∈ pool.pending,
      (PowerRequestHandle.mk other, ((pool.recorded index free target).slot other).target) =
        (⟨other⟩, (pool.slot other).target) := by
    intro other pending
    have apart : other ≠ index := fun same => sound.fresh first (same ▸ pending)
    rw [RequestPool.recorded, slot_set inside, if_neg apart]
  have last : (pool.recorded index free target).slot index = { target, live := true } := by
    rw [RequestPool.recorded, slot_set inside, if_pos rfl]
  rw [entries, entries, ← List.map_congr_left others, RequestPool.recorded, List.map_append,
    List.map_singleton, ← RequestPool.recorded, last]

/-! ## Releasing a slot -/

section Release

variable (sound : pool.Sound capacity) (queued : pool.pending = before ++ index :: after)

include sound queued

theorem Sound.pending_release : (pool.release index).pending = before ++ after := by
  rw [release, queued, List.erase_append_right _ (sound.unique queued).1, List.erase_cons_head]

theorem Sound.occupied : index < pool.slots.size :=
  sound.inside (by simp [queued])

theorem Sound.release : (pool.release index).Sound capacity where
  size := by simpa [RequestPool.release] using sound.size
  shared := by
    have moved : (index :: pool.free ++ (before ++ after)).Perm (pool.free ++ pool.pending) := by
      rw [queued, ← List.append_assoc pool.free, List.cons_append, ← List.append_assoc]
      exact List.perm_middle.symm
    rw [sound.pending_release queued]
    exact moved.trans sound.shared
  live other := by
    have apart := sound.unique queued
    rw [slot_release (sound.occupied queued), sound.pending_release queued, List.mem_append]
    by_cases same : other = index
    · simp [same, apart]
    · simp [same, sound.live other, queued]

theorem Sound.entries_release :
    pool.entries = before.map (fun index => (⟨index⟩, (pool.slot index).target)) ++
        (⟨index⟩, (pool.slot index).target) ::
          after.map (fun index => (⟨index⟩, (pool.slot index).target)) ∧
      (pool.release index).entries =
        before.map (fun index => (⟨index⟩, (pool.slot index).target)) ++
          after.map (fun index => (⟨index⟩, (pool.slot index).target)) := by
  constructor
  · rw [entries, queued, List.map_append, List.map_cons]
  · simp only [entries, sound.pending_release queued, target_release (sound.occupied queued),
      List.map_append]

end Release

/-! ## The queue -/

/-- What a call is answered, and what it makes of the pending requests, in a queue with room for
`capacity` of them. -/
inductive Served (capacity : Nat) (entries : List (PowerRequestHandle × DevicePower)) :
    PoolCall → PoolAnswer → List (PowerRequestHandle × DevicePower) → Prop
  | recorded {handle : PowerRequestHandle} {target : DevicePower}
      (room : entries.length < capacity) (fresh : ∀ entry ∈ entries, entry.1 ≠ handle) :
      Served capacity entries (.push target) (.recorded (.ok handle))
        (entries ++ [(handle, target)])
  | exhausted {target : DevicePower} (full : entries.length = capacity) :
      Served capacity entries (.push target) (.recorded (.error .powerPoolExhausted)) entries
  | matched {handle : PowerRequestHandle} {target : DevicePower}
      {before after : List (PowerRequestHandle × DevicePower)}
      (queued : entries = before ++ (handle, target) :: after)
      (oldest : ∀ entry ∈ before, entry.2 ≠ target) :
      Served capacity entries (.matchAndRelease target) (.found true) (before ++ after)
  | unmatched {target : DevicePower} (none : ∀ entry ∈ entries, entry.2 ≠ target) :
      Served capacity entries (.matchAndRelease target) (.found false) entries
  | cancelled {handle : PowerRequestHandle} {target : DevicePower}
      {before after : List (PowerRequestHandle × DevicePower)}
      (queued : entries = before ++ (handle, target) :: after) :
      Served capacity entries (.cancel handle) (.found true) (before ++ after)
  | unknown {handle : PowerRequestHandle} (none : ∀ entry ∈ entries, entry.1 ≠ handle) :
      Served capacity entries (.cancel handle) (.found false) entries

theorem mem_entries {entry : PowerRequestHandle × DevicePower} :
    entry ∈ pool.entries ↔
      ∃ index ∈ pool.pending, entry = (⟨index⟩, (pool.slot index).target) := by
  simp only [entries, List.mem_map, eq_comm]

theorem length_entries : pool.entries.length = pool.pending.length := List.length_map _

theorem Sound.holds (sound : pool.Sound capacity) (pending : index ∈ pool.pending)
    (target : DevicePower) :
    pool.holds target index = true ↔ (pool.slot index).target = target := by
  simp [RequestPool.holds, (sound.live index).mpr pending]

/-- What a call makes of a sound pool. -/
structure Kept (capacity : Nat) (pool : RequestPool) (call : PoolCall) : Prop where
  sound : (pool.answer call).2.Sound capacity
  served : Served capacity pool.entries call (pool.answer call).1 (pool.answer call).2.entries
  refused : (pool.answer call).1.isRefusal → (pool.answer call).2 = pool

theorem kept_of_answer {call : PoolCall} {answered : PoolAnswer} {next : RequestPool}
    (called : pool.answer call = (answered, next)) (sound : next.Sound capacity)
    (served : Served capacity pool.entries call answered next.entries)
    (refused : answered.isRefusal → next = pool) : Kept capacity pool call where
  sound := by rwa [called]
  served := by rwa [called]
  refused := by rwa [called]

theorem Sound.push (sound : pool.Sound capacity) (target : DevicePower) :
    Kept capacity pool (.push target) := by
  have shared := sound.length
  rw [← length_entries] at shared
  cases first : pool.free with
  | nil =>
      rw [first, List.length_nil, Nat.zero_add] at shared
      exact kept_of_answer (answer_push_full first target) sound (.exhausted shared) fun _ => rfl
  | cons index free =>
      have room : pool.entries.length < capacity := by
        rw [first, List.length_cons] at shared
        omega
      have fresh : ∀ entry ∈ pool.entries, entry.1 ≠ ⟨index⟩ := by
        intro entry member same
        obtain ⟨other, pending, rfl⟩ := mem_entries.mp member
        cases same
        exact sound.fresh first pending
      refine kept_of_answer (answer_push_room first target) (sound.recorded first target) ?_ nofun
      rw [sound.entries_recorded first]
      exact .recorded room fresh

theorem Sound.matchAndRelease (sound : pool.Sound capacity) (target : DevicePower) :
    Kept capacity pool (.matchAndRelease target) := by
  cases found : pool.pending.find? (pool.holds target) with
  | none =>
      have answered : pool.answer (.matchAndRelease target) = (.found false, pool) := by
        simp only [answer, RequestPool.matchAndRelease, found]
      refine kept_of_answer answered sound (.unmatched fun entry member same => ?_) fun _ => rfl
      obtain ⟨index, pending, rfl⟩ := mem_entries.mp member
      exact List.find?_eq_none.mp found index pending ((sound.holds pending target).mpr same)
  | some index =>
      have answered : pool.answer (.matchAndRelease target) =
          (.found true, pool.release index) := by
        simp only [answer, RequestPool.matchAndRelease, found]
      obtain ⟨holds, before, after, queued, earlier⟩ := List.find?_eq_some_iff_append.mp found
      obtain ⟨all, left⟩ := sound.entries_release queued
      have level : (pool.slot index).target = target :=
        (sound.holds (by simp [queued]) target).mp holds
      refine kept_of_answer answered (sound.release queued) ?_ nofun
      rw [left]
      refine .matched (level ▸ all) fun entry member same => ?_
      obtain ⟨other, here, rfl⟩ := List.mem_map.mp member
      have pending : other ∈ pool.pending := by
        rw [queued]
        exact List.mem_append_left _ here
      simpa [(sound.holds pending target).mpr same] using earlier other here

theorem Sound.cancel (sound : pool.Sound capacity) (handle : PowerRequestHandle) :
    Kept capacity pool (.cancel handle) := by
  by_cases pending : handle.slot ∈ pool.pending
  · have answered : pool.answer (.cancel handle) = (.found true, pool.release handle.slot) := by
      simp only [answer, RequestPool.cancel, pending, if_true]
    obtain ⟨before, after, queued⟩ := List.append_of_mem pending
    obtain ⟨all, left⟩ := sound.entries_release queued
    refine kept_of_answer answered (sound.release queued) ?_ nofun
    rw [left]
    exact .cancelled all
  · have answered : pool.answer (.cancel handle) = (.found false, pool) := by
      simp only [answer, RequestPool.cancel, pending, if_false]
    refine kept_of_answer answered sound (.unknown fun entry member same => ?_) fun _ => rfl
    obtain ⟨index, here, rfl⟩ := mem_entries.mp member
    cases same
    exact pending here

theorem Sound.answer (sound : pool.Sound capacity) (call : PoolCall) : Kept capacity pool call := by
  cases call with
  | push target => exact sound.push target
  | matchAndRelease target => exact sound.matchAndRelease target
  | cancel handle => exact sound.cancel handle

theorem Sound.through (sound : pool.Sound capacity) (calls : List PoolCall) :
    (pool.through calls).Sound capacity := by
  induction calls generalizing pool with
  | nil => exact sound
  | cons call calls ih => exact ih (sound.answer call).sound

/-! ## Every access is inside -/

def writeAt? (slots : Array PowerSlot) (index : Nat) (slot : PowerSlot) :
    Option (Array PowerSlot) :=
  if inside : index < slots.size then some (slots.set index slot) else none

def releaseAt? (pool : RequestPool) (index : Nat) : Option RequestPool := do
  let slot ← pool.slots[index]?
  let slots ← writeAt? pool.slots index { slot with live := false }
  some { slots, free := index :: pool.free, pending := pool.pending.erase index }

/-- A call with every slot taken from the arena by its index, where an access outside of the arena
gives `none`. -/
def answerAt? (pool : RequestPool) : PoolCall → Option (PoolAnswer × RequestPool)
  | .push target =>
      match pool.free with
      | [] => some (.recorded (.error .powerPoolExhausted), pool)
      | index :: free => do
          let slots ← writeAt? pool.slots index { target, live := true }
          some (.recorded (.ok ⟨index⟩), { slots, free, pending := pool.pending ++ [index] })
  | .matchAndRelease target => do
      let found ← pool.pending.findM? fun index => do
        let slot ← pool.slots[index]?
        some (slot.live && slot.target == target)
      match found with
      | some index => some (.found true, ← pool.releaseAt? index)
      | none => some (.found false, pool)
  | .cancel handle =>
      if handle.slot ∈ pool.pending then do
        some (.found true, ← pool.releaseAt? handle.slot)
      else some (.found false, pool)

theorem writeAt?_eq {slots : Array PowerSlot} (inside : index < slots.size) (slot : PowerSlot) :
    writeAt? slots index slot = some (slots.setIfInBounds index slot) := by
  rw [writeAt?, dif_pos inside, Array.setIfInBounds, dif_pos inside]

theorem getElem?_slots (inside : index < pool.slots.size) :
    pool.slots[index]? = some (pool.slot index) := by
  simp [slot, inside]

theorem releaseAt?_eq (inside : index < pool.slots.size) :
    pool.releaseAt? index = some (pool.release index) := by
  simp only [releaseAt?, getElem?_slots inside, writeAt?_eq inside, Option.bind_eq_bind,
    Option.bind_some, release]

theorem findM?_eq {p : Nat → Option Bool} {q : Nat → Bool} {l : List Nat}
    (same : ∀ index ∈ l, p index = some (q index)) : l.findM? p = some (l.find? q) := by
  induction l with
  | nil => rfl
  | cons index l ih =>
      rw [List.findM?, same index List.mem_cons_self, List.find?_cons]
      cases q index with
      | true => rfl
      | false => exact ih fun other member => same other (List.mem_cons_of_mem _ member)

theorem Sound.answerAt?_eq (sound : pool.Sound capacity) (call : PoolCall) :
    pool.answerAt? call = some (pool.answer call) := by
  have pendingInside : ∀ index ∈ pool.pending, index < pool.slots.size := fun index pending =>
    sound.inside (List.mem_append_right _ pending)
  cases call with
  | push target =>
      cases first : pool.free with
      | nil => simp only [answerAt?, first, answer_push_full first]
      | cons index free =>
          have inside : index < pool.slots.size := sound.inside (by simp [first])
          simp only [answerAt?, first, writeAt?_eq inside, answer_push_room first]
          rfl
  | matchAndRelease target =>
      have search : (pool.pending.findM? fun index => do
          let slot ← pool.slots[index]?
          some (slot.live && slot.target == target)) =
            some (pool.pending.find? (pool.holds target)) := by
        refine findM?_eq fun index pending => ?_
        rw [getElem?_slots (pendingInside index pending)]
        rfl
      simp only [answerAt?, search, RequestPool.answer, RequestPool.matchAndRelease]
      cases found : pool.pending.find? (pool.holds target) with
      | none => rfl
      | some index =>
          have inside := pendingInside index (List.mem_of_find?_eq_some found)
          simp only [Option.bind_eq_bind, Option.bind_some, releaseAt?_eq inside]
  | cancel handle =>
      by_cases pending : handle.slot ∈ pool.pending
      · simp only [answerAt?, RequestPool.answer, RequestPool.cancel, pending, if_true,
          releaseAt?_eq (pendingInside _ pending), Option.bind_eq_bind, Option.bind_some]
      · simp only [answerAt?, RequestPool.answer, RequestPool.cancel, pending, if_false]

/-! ## The main statement -/

/-- Whatever was asked of a pool, its slots are shared out between the free list and the queue, the
live ones are those in the queue, and the next call finds every slot it looks for and is served as in
a queue with room for as many requests as the pool has slots. A call that is refused changes
nothing. -/
theorem pool_is_bounded_queue (capacity : Nat) (calls : List PoolCall) (call : PoolCall) :
    let pool := (ofCapacity capacity).through calls
    (pool.free ++ pool.pending).Perm (List.range capacity) ∧
      pool.slots.size = capacity ∧
      (∀ index, (pool.slot index).live = true ↔ index ∈ pool.pending) ∧
      pool.answerAt? call = some (pool.answer call) ∧
      Served capacity pool.entries call (pool.answer call).1 (pool.answer call).2.entries ∧
      ((pool.answer call).1.isRefusal → (pool.answer call).2 = pool) := by
  intro pool
  have sound : pool.Sound capacity := (sound_ofCapacity capacity).through calls
  have kept := sound.answer call
  exact ⟨sound.shared, sound.size, sound.live, sound.answerAt?_eq call, kept.served, kept.refused⟩

/-- Of two requests for one level the older one goes. -/
example : ((ofCapacity 3).through
    [.push .d2, .push .d0, .push .d2, .matchAndRelease .d2]).entries = [(⟨1⟩, .d0), (⟨2⟩, .d2)] := by
  decide

end RequestPool

end ModemLink
