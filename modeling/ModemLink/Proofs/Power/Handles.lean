import ModemLink.Proofs.Power.RequestPool

/-!
# Handles of requests that are gone

A handle names a slot, and slots are used again. A docket is a pool together with what it cannot tell
by itself, the handles it returned and which of them each pending record was made for. With that
beside it one can say what an old handle drops: its own record if that is pending, nothing if it is
gone, and the record of a later request once that is in the same slot.
-/

namespace ModemLink

structure Docket where
  pool : RequestPool
  /-- The handles that were returned, the first one first. -/
  returned : List PowerRequestHandle := []
  /-- For each pending record, the oldest first, the place of its handle among those returned and
  the slot that the record is in. -/
  records : List (Nat × Nat) := []

namespace Docket

def ofCapacity (capacity : Nat) : Docket := { pool := .ofCapacity capacity }

/-- Places of the handles whose own records are pending. -/
def pending (docket : Docket) : List Nat := docket.records.map Prod.fst

/-- A call takes the first record that it finds in the queue. -/
def next (docket : Docket) (call : PoolCall) : Docket :=
  let pool := (docket.pool.answer call).2
  match call with
  | .push _ =>
      match (docket.pool.answer call).1 with
      | .recorded (.ok handle) =>
          { pool
            returned := docket.returned ++ [handle]
            records := docket.records ++ [(docket.returned.length, handle.slot)] }
      | _ => { docket with pool }
  | .matchAndRelease target =>
      { docket with
        pool
        records := docket.records.eraseP fun record => docket.pool.holds target record.2 }
  | .cancel handle =>
      { docket with pool, records := docket.records.eraseP fun record => record.2 == handle.slot }

def through (docket : Docket) (calls : List PoolCall) : Docket := calls.foldl next docket

/-- The docket tells the truth of its pool. -/
structure Faithful (capacity : Nat) (docket : Docket) : Prop where
  sound : docket.pool.Sound capacity
  slots : docket.records.map Prod.snd = docket.pool.pending
  returned : ∀ record ∈ docket.records, docket.returned[record.1]? = some ⟨record.2⟩
  /-- While a record is pending its slot is not handed out again. -/
  latest : ∀ record ∈ docket.records, ∀ later, record.1 < later →
    docket.returned[later]? ≠ some ⟨record.2⟩

variable {capacity number index : Nat} {target : DevicePower} {handle : PowerRequestHandle}
  {docket : Docket} {free : List Nat} {found : Nat → Bool}

theorem faithful_ofCapacity (capacity : Nat) : (ofCapacity capacity).Faithful capacity where
  sound := RequestPool.sound_ofCapacity capacity
  slots := rfl
  returned := by simp [ofCapacity]
  latest := by simp [ofCapacity]

theorem next_pool (docket : Docket) (call : PoolCall) :
    (docket.next call).pool = (docket.pool.answer call).2 := by
  cases call with
  | push target =>
      simp only [next]
      split
      · rfl
      · rfl
  | matchAndRelease | cancel => rfl

theorem through_pool (docket : Docket) (calls : List PoolCall) :
    (docket.through calls).pool = docket.pool.through calls := by
  induction calls generalizing docket with
  | nil => rfl
  | cons call calls ih =>
      refine (ih (docket.next call)).trans ?_
      rw [next_pool]
      rfl

/-! ## Recording -/

theorem returned_concat {returned : List PowerRequestHandle} {last : PowerRequestHandle}
    (found : (returned ++ [last])[number]? = some handle) :
    returned[number]? = some handle ∨ number = returned.length ∧ handle = last := by
  by_cases inside : number < returned.length
  · rw [List.getElem?_append_left inside] at found
    exact .inl found
  · rw [List.getElem?_append_right (Nat.not_lt.mp inside)] at found
    obtain ⟨bound, same⟩ := List.getElem?_eq_some_iff.mp found
    simp only [List.length_singleton] at bound
    exact .inr ⟨by omega, by simpa using same.symm⟩

theorem Faithful.push (faithful : docket.Faithful capacity) (target : DevicePower) :
    (docket.next (.push target)).Faithful capacity := by
  cases first : docket.pool.free with
  | nil =>
      have answered := RequestPool.answer_push_full first target
      have same : docket.next (.push target) = docket := by simp only [next, answered]
      rwa [same]
  | cons index free =>
      have answered := RequestPool.answer_push_room first target
      have shape : docket.next (.push target) =
          { pool := docket.pool.recorded index free target
            returned := docket.returned ++ [⟨index⟩]
            records := docket.records ++ [(docket.returned.length, index)] } := by
        simp only [next, answered]
      have fresh : ∀ record ∈ docket.records, record.2 ≠ index := by
        intro record member same
        refine faithful.sound.fresh first ?_
        rw [← faithful.slots, ← same]
        exact List.mem_map_of_mem member
      rw [shape]
      refine ⟨faithful.sound.recorded first target, ?_, ?_, ?_⟩
      · simp [RequestPool.recorded, faithful.slots]
      · intro record member
        obtain old | new := List.mem_append.mp member
        · have known := faithful.returned record old
          rw [List.getElem?_append_left (List.getElem?_eq_some_iff.mp known).1, known]
        · obtain rfl := List.mem_singleton.mp new
          simp
      · intro record member later after reissued
        obtain old | new := List.mem_append.mp member
        · obtain known | ⟨-, same⟩ := returned_concat reissued
          · exact faithful.latest record old later after known
          · exact fresh record old (congrArg PowerRequestHandle.slot same)
        · obtain rfl := List.mem_singleton.mp new
          obtain known | ⟨last, -⟩ := returned_concat reissued
          · have bound := (List.getElem?_eq_some_iff.mp known).1
            simp only at after
            omega
          · simp only at after
            omega

/-! ## Taking a record out of the queue -/

/-- A release keeps the docket faithful if it takes the record of the slot out of it as well. -/
theorem Faithful.release (faithful : docket.Faithful capacity) {before after : List (Nat × Nat)}
    (queued : docket.records = before ++ (number, index) :: after) :
    ({ docket with pool := docket.pool.release index, records := before ++ after } :
      Docket).Faithful capacity := by
  have shape : docket.pool.pending = before.map Prod.snd ++ index :: after.map Prod.snd := by
    rw [← faithful.slots, queued, List.map_append, List.map_cons]
  have kept : ∀ record ∈ before ++ after, record ∈ docket.records := by
    intro record member
    rw [queued]
    exact ((List.sublist_cons_self _ after).append_left before).subset member
  exact
    { sound := faithful.sound.release shape
      slots := by rw [faithful.sound.pending_release shape, List.map_append]
      returned := fun record member => faithful.returned record (kept record member)
      latest := fun record member => faithful.latest record (kept record member) }

theorem Faithful.eraseP_none (faithful : docket.Faithful capacity)
    (none : docket.pool.pending.find? found = none) :
    (docket.records.eraseP fun record => found record.2) = docket.records := by
  refine List.eraseP_of_forall_not fun record member => ?_
  refine List.find?_eq_none.mp none record.2 ?_
  rw [← faithful.slots]
  exact List.mem_map_of_mem member

/-- The first record in the queue and the first in the docket are the same one. -/
theorem Faithful.eraseP_some (faithful : docket.Faithful capacity)
    (first : docket.pool.pending.find? found = some index) :
    ∃ number before after, docket.records = before ++ (number, index) :: after ∧
      (docket.records.eraseP fun record => found record.2) = before ++ after := by
  rw [← faithful.slots, List.find?_map] at first
  obtain ⟨⟨number, slot⟩, known, rfl⟩ := Option.map_eq_some_iff.mp first
  obtain ⟨holds, before, after, queued, earlier⟩ := List.find?_eq_some_iff_append.mp known
  refine ⟨number, before, after, queued, ?_⟩
  rw [queued, List.eraseP_append_right _ fun record member => by simpa using earlier record member,
    List.eraseP_cons_of_pos (p := fun record : Nat × Nat => found record.2) holds]

theorem Faithful.take (faithful : docket.Faithful capacity) (found : Nat → Bool) {pool : RequestPool}
    (taken : pool = match docket.pool.pending.find? found with
      | some index => docket.pool.release index
      | none => docket.pool) :
    ({ docket with pool, records := docket.records.eraseP fun record => found record.2 } :
      Docket).Faithful capacity := by
  subst taken
  cases first : docket.pool.pending.find? found with
  | none => rwa [faithful.eraseP_none first]
  | some index =>
      obtain ⟨number, before, after, queued, erased⟩ := faithful.eraseP_some first
      rw [erased]
      exact faithful.release queued

theorem find?_slot (pending : List Nat) (slot : Nat) :
    pending.find? (· == slot) = if slot ∈ pending then some slot else none := by
  by_cases member : slot ∈ pending
  · rw [if_pos member, List.find?_eq_some_iff_append]
    obtain ⟨before, after, shape, earlier⟩ := List.eq_append_cons_of_mem member
    refine ⟨BEq.rfl, before, after, shape, fun other here => ?_⟩
    simpa using fun same : other = slot => earlier (same ▸ here)
  · rw [if_neg member, List.find?_eq_none]
    intro other here same
    exact member (beq_iff_eq.mp same ▸ here)

theorem Faithful.next (faithful : docket.Faithful capacity) (call : PoolCall) :
    (docket.next call).Faithful capacity := by
  cases call with
  | push target => exact faithful.push target
  | matchAndRelease target =>
      refine faithful.take (docket.pool.holds target) ?_
      simp only [RequestPool.answer, RequestPool.matchAndRelease]
      cases docket.pool.pending.find? (docket.pool.holds target) with
      | none => rfl
      | some index => rfl
  | cancel handle =>
      refine faithful.take (· == handle.slot) ?_
      rw [find?_slot]
      by_cases pending : handle.slot ∈ docket.pool.pending
      · simp only [RequestPool.answer, RequestPool.cancel, pending, if_true]
      · simp only [RequestPool.answer, RequestPool.cancel, pending, if_false]

theorem Faithful.through (faithful : docket.Faithful capacity) (calls : List PoolCall) :
    (docket.through calls).Faithful capacity := by
  induction calls generalizing docket with
  | nil => exact faithful
  | cons call calls ih => exact ih (faithful.next call)

/-! ## Cancelling -/

theorem mem_pending : number ∈ docket.pending ↔ ∃ slot, (number, slot) ∈ docket.records := by
  simp [pending]

theorem Faithful.distinct (faithful : docket.Faithful capacity) :
    (docket.records.map Prod.snd).Nodup := by
  rw [faithful.slots]
  exact (List.nodup_append.mp faithful.sound.nodup).2.1

/-- A handle whose own record is pending drops that record. -/
theorem Faithful.cancel_own (faithful : docket.Faithful capacity)
    (known : docket.returned[number]? = some handle) (own : number ∈ docket.pending) :
    (docket.pool.cancel handle).1 = true ∧
      (docket.next (.cancel handle)).pending = docket.pending.erase number := by
  obtain ⟨slot, member⟩ := mem_pending.mp own
  obtain rfl : handle = ⟨slot⟩ := by
    simpa [known] using faithful.returned _ member
  have queued : slot ∈ docket.pool.pending := by
    rw [← faithful.slots]
    exact List.mem_map_of_mem member
  refine ⟨by rw [RequestPool.cancel, if_pos queued], ?_⟩
  have first : docket.pool.pending.find? (· == slot) = some slot := by rw [find?_slot, if_pos queued]
  obtain ⟨other, before, after, shape, erased⟩ := faithful.eraseP_some first
  -- The record that goes is the only one in its slot, so it is the handle's own.
  obtain rfl : number = other := by
    have there : (other, slot) ∈ docket.records := by simp [shape]
    exact congrArg Prod.fst (List.inj_on_of_nodup_map faithful.distinct member there rfl)
  have apart : number ∉ before.map Prod.fst := by
    intro earlier
    obtain ⟨⟨_, place⟩, here, rfl⟩ := List.mem_map.mp earlier
    have placed := faithful.returned _ (shape ▸ List.mem_append_left _ here)
    obtain rfl : place = slot := by simpa [known, eq_comm] using placed
    have twice := faithful.distinct
    rw [shape, List.map_append, List.map_cons] at twice
    exact (List.nodup_append.mp twice).2.2 _ (List.mem_map_of_mem here) _ List.mem_cons_self rfl
  show (docket.records.eraseP _).map Prod.fst = (docket.records.map Prod.fst).erase number
  rw [erased, shape, List.map_append, List.map_append, List.map_cons,
    List.erase_append_right _ apart, List.erase_cons_head]

/-- A handle whose own record is gone finds nothing if no later record is in its slot. -/
theorem Faithful.cancel_stale (faithful : docket.Faithful capacity)
    (known : docket.returned[number]? = some handle) (gone : number ∉ docket.pending)
    (unshared : ∀ later ∈ docket.pending, number < later → docket.returned[later]? ≠ some handle) :
    docket.pool.cancel handle = (false, docket.pool) ∧ docket.next (.cancel handle) = docket := by
  have absent : handle.slot ∉ docket.pool.pending := by
    intro queued
    rw [← faithful.slots] at queued
    obtain ⟨⟨other, slot⟩, member, rfl⟩ := List.mem_map.mp queued
    have pending : other ∈ docket.pending := mem_pending.mpr ⟨_, member⟩
    have same : docket.returned[other]? = some handle := faithful.returned _ member
    rcases Nat.lt_trichotomy other number with earlier | here | later
    · exact faithful.latest _ member number earlier known
    · exact gone (here ▸ pending)
    · exact unshared other pending later same
  have refused : docket.pool.cancel handle = (false, docket.pool) := by
    rw [RequestPool.cancel, if_neg absent]
  have kept : (docket.records.eraseP fun record => record.2 == handle.slot) = docket.records :=
    faithful.eraseP_none (by rw [find?_slot, if_neg absent])
  refine ⟨refused, ?_⟩
  simp only [Docket.next, RequestPool.answer, refused, kept]

/-- The records of a docket are those in the queue of its pool, each in the slot that its handle
names. A handle drops its own record as long as that is pending, and no other. Once its record is
gone the handle drops nothing, unless its slot holds the record of a later request. -/
theorem stale_handle_cancels_nothing (capacity : Nat) (calls : List PoolCall) (number : Nat)
    (handle : PowerRequestHandle)
    (known : ((ofCapacity capacity).through calls).returned[number]? = some handle) :
    let docket := (ofCapacity capacity).through calls
    docket.pool = (RequestPool.ofCapacity capacity).through calls ∧
      docket.records.map Prod.snd = docket.pool.pending ∧
      (∀ record ∈ docket.records, docket.returned[record.1]? = some ⟨record.2⟩) ∧
      (number ∈ docket.pending →
        (docket.pool.cancel handle).1 = true ∧
          (docket.next (.cancel handle)).pending = docket.pending.erase number) ∧
      (number ∉ docket.pending →
        (∀ later ∈ docket.pending, number < later → docket.returned[later]? ≠ some handle) →
        docket.pool.cancel handle = (false, docket.pool) ∧
          docket.next (.cancel handle) = docket) := by
  intro docket
  have faithful : docket.Faithful capacity := (faithful_ofCapacity capacity).through calls
  exact ⟨through_pool _ calls, faithful.slots, faithful.returned, faithful.cancel_own known,
    faithful.cancel_stale known⟩

/-- The first of three requests is matched and its slot taken by the third: the second handle drops
its own record, and then nothing. -/
theorem stale_handle_cancels_nothing_once_cancelled :
    let calls : List PoolCall := [.push .d2, .push .d0, .matchAndRelease .d2, .push .d3]
    let docket := (ofCapacity 2).through calls
    let later := (ofCapacity 2).through (calls ++ [.cancel ⟨1⟩])
    docket.returned[1]? = some ⟨1⟩ ∧ 1 ∈ docket.pending ∧
      (docket.pool.cancel ⟨1⟩).1 = true ∧ later.pending = [2] ∧
      later.returned[1]? = some ⟨1⟩ ∧ 1 ∉ later.pending ∧
      (∀ other ∈ later.pending, 1 < other → later.returned[other]? ≠ some ⟨1⟩) ∧
      later.pool.cancel ⟨1⟩ = (false, later.pool) := by
  intro calls docket later
  have own := (stale_handle_cancels_nothing 2 calls 1 ⟨1⟩ rfl).2.2.2.1 (by decide)
  have gone := (stale_handle_cancels_nothing 2 (calls ++ [.cancel ⟨1⟩]) 1 ⟨1⟩ rfl).2.2.2.2
    (by decide) (by decide)
  exact ⟨rfl, by decide, own.1, own.2, rfl, by decide, by decide, gone.1⟩

/-- In a pool of one slot, the handle of a request that was matched drops the request that came
next. -/
theorem stale_handle_cancels_successor :
    let docket := (ofCapacity 1).through [.push .d2, .matchAndRelease .d2, .push .d3]
    docket.returned[0]? = some ⟨0⟩ ∧ 0 ∉ docket.pending ∧
      (docket.pool.cancel ⟨0⟩).1 = true ∧
      docket.pending = [1] ∧ (docket.next (.cancel ⟨0⟩)).pending = [] := by
  decide

end Docket

end ModemLink
