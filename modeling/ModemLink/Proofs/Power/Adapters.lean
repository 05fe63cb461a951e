import ModemLink.Power.AdapterRun
import ModemLink.Proofs.Power.RequestPool

/-!
# The adapter registry is its live registrations

The entries of the registry are the registrations that are held, one for each key. Since no two of
them have one key, a drop that goes by the key takes its own entry and no other.
-/

namespace ModemLink

/-- What is in a place of a list parts it, and the rest is left without it. -/
theorem eraseIdx_of_getElem? {α : Type} {list : List α} {index : Nat} {a : α}
    (there : list[index]? = some a) :
    ∃ earlier later, list = earlier ++ a :: later ∧ earlier.length = index ∧
      list.eraseIdx index = earlier ++ later := by
  obtain ⟨inside, rfl⟩ := List.getElem?_eq_some_iff.mp there
  refine ⟨list.take index, list.drop (index + 1), ?_, ?_, List.eraseIdx_eq_take_drop_succ list index⟩
  · rw [← List.drop_eq_getElem_cons inside, List.take_append_drop]
  · rw [List.length_take, Nat.min_eq_left inside.le]

namespace Registry

variable {α : Type} {r : Registry α} {key : AdapterKey} {entry : α}

theorem lookup_eq_some_iff (distinct : (r.entries.map Prod.fst).Nodup) :
    r.lookup key = some entry ↔ (key, entry) ∈ r.entries := by
  unfold lookup
  induction entries : r.entries generalizing r with
  | nil => simp
  | cons first rest ih =>
      obtain ⟨held, registered⟩ := first
      rw [entries, List.map_cons, List.nodup_cons] at distinct
      have tail := ih (r := ⟨rest⟩) distinct.2 rfl
      by_cases same : key = held
      · subst same
        have shadowed : (key, entry) ∉ rest := fun member =>
          distinct.1 (List.mem_map.mpr ⟨_, member, rfl⟩)
        simp [shadowed, eq_comm]
      · rw [List.lookup_cons, beq_eq_false_iff_ne.mpr same]
        simpa [same] using tail

end Registry

namespace RequestPool

variable {capacity : Nat} {pool : RequestPool}

/-- What the filter answers, and what it makes of the pending requests. -/
inductive Filtered (entries : List (PowerRequestHandle × DevicePower)) (request : PowerRequest) :
    PowerDisposition → List (PowerRequestHandle × DevicePower) → Prop
  | consumed {handle : PowerRequestHandle} {level : DevicePower}
      {earlier later : List (PowerRequestHandle × DevicePower)} (asked : request = .setDevice level)
      (queued : entries = earlier ++ (handle, level) :: later)
      (oldest : ∀ entry ∈ earlier, entry.2 ≠ level) :
      Filtered entries request .selfOriginated (earlier ++ later)
  | forwarded
      (unmatched : ∀ level, request = .setDevice level → ∀ entry ∈ entries, entry.2 ≠ level) :
      Filtered entries request .forward entries

section Filtered

variable {entries left : List (PowerRequestHandle × DevicePower)} {request : PowerRequest}
  {disposition : PowerDisposition}

theorem Filtered.ne_notOurs (filtered : Filtered entries request disposition left) :
    disposition ≠ .notOurs := by
  cases filtered with
  | consumed => nofun
  | forwarded => nofun

theorem Filtered.selfOriginated_iff (filtered : Filtered entries request disposition left) :
    disposition = .selfOriginated ↔
      ∃ level handle, request = .setDevice level ∧ (handle, level) ∈ entries := by
  cases filtered with
  | consumed asked queued oldest =>
      exact iff_of_true rfl ⟨_, _, asked, queued ▸ List.mem_append_right _ List.mem_cons_self⟩
  | forwarded unmatched =>
      refine iff_of_false nofun ?_
      rintro ⟨level, handle, asked, pending⟩
      exact unmatched level asked _ pending rfl

end Filtered

theorem filter_eq_answer (pool : RequestPool) (level : DevicePower) :
    pool.filter (.setDevice level) =
      match pool.answer (.matchAndRelease level) with
      | (.found true, pool) => (.selfOriginated, pool)
      | (_, pool) => (.forward, pool) := by
  simp only [filter, answer]
  cases pool.matchAndRelease level with
  | mk found after => cases found <;> rfl

theorem Sound.filter (sound : pool.Sound capacity) (request : PowerRequest) :
    (pool.filter request).2.Sound capacity ∧
      Filtered pool.entries request (pool.filter request).1 (pool.filter request).2.entries ∧
      ((pool.filter request).1 = .forward → (pool.filter request).2 = pool) := by
  have other (unasked : ∀ level, request ≠ .setDevice level) :
      Filtered pool.entries request .forward pool.entries :=
    .forwarded fun level asked => absurd asked (unasked level)
  cases request with
  | setDevice level =>
      obtain ⟨after, served, refused⟩ := sound.matchAndRelease level
      rw [filter_eq_answer]
      generalize pool.answer (.matchAndRelease level) = result at after served refused
      obtain ⟨answered, next⟩ := result
      dsimp only at after served refused
      generalize left : next.entries = entries at served
      cases served with
      | matched queued oldest => exact ⟨after, left ▸ .consumed rfl queued oldest, nofun⟩
      | unmatched none =>
          obtain rfl := refused rfl
          refine ⟨after, .forwarded fun other asked => ?_, fun _ => rfl⟩
          cases asked
          exact none
  | queryDevice | querySystem | setSystem => exact ⟨sound, other nofun, fun _ => rfl⟩

end RequestPool

def Registration.entry (registration : Registration) : AdapterKey × StateRef :=
  (registration.key, registration.state)

namespace Adapters

variable {capacity : StateRef → Nat} {adapters : Adapters} {key : AdapterKey} {state : StateRef}

theorem states_setState (adapters : Adapters) (state : StateRef) (device : Device)
    (other : StateRef) : (adapters.setState state device).states other =
      if other = state then device else adapters.states other := rfl

/-- The registry is what is held of it, each key once, and every state keeps its requests in a sound
pool. -/
structure Sound (capacity : StateRef → Nat) (adapters : Adapters) : Prop where
  distinct : (adapters.held.map Registration.key).Nodup
  listed : adapters.registry.entries = adapters.held.map Registration.entry
  pools : ∀ state, (adapters.states state).pool.Sound (capacity state)

theorem sound_create (mux : StateRef → MuxConfig) (port : StateRef → String)
    (capacity : StateRef → Nat) : (create mux port capacity).Sound capacity where
  distinct := List.nodup_nil
  listed := rfl
  pools state := RequestPool.sound_ofCapacity (capacity state)

theorem Sound.lookup_eq_some_iff (sound : adapters.Sound capacity) :
    adapters.registry.lookup key = some state ↔ ⟨key, state⟩ ∈ adapters.held := by
  have distinct : (adapters.registry.entries.map Prod.fst).Nodup := by
    rw [sound.listed, List.map_map]
    exact sound.distinct
  rw [Registry.lookup_eq_some_iff distinct, sound.listed, List.mem_map]
  constructor
  · rintro ⟨registration, member, same⟩
    cases same
    exact member
  · exact fun member => ⟨_, member, rfl⟩

theorem Sound.lookup_eq_none_iff (sound : adapters.Sound capacity) :
    adapters.registry.lookup key = none ↔
      ∀ registration ∈ adapters.held, registration.key ≠ key := by
  rw [Option.eq_none_iff_forall_ne_some]
  constructor
  · rintro free registration member rfl
    exact free registration.state (sound.lookup_eq_some_iff.mpr member)
  · intro free state found
    exact free _ (sound.lookup_eq_some_iff.mp found) rfl

/-- What a call is answered, and what it makes of the registrations that are held and of the pending
requests of the states. -/
inductive Served (before : Adapters) : AdapterCall → AdapterAnswer → Adapters → Prop
  | registered {key : AdapterKey} {state : StateRef}
      (free : ∀ registration ∈ before.held, registration.key ≠ key) :
      Served before (.register key state) (.registered (.ok ()))
        { before with
          registry := ⟨before.registry.entries ++ [(key, state)]⟩
          held := before.held ++ [⟨key, state⟩] }
  | refused {key : AdapterKey} {state other : StateRef} (taken : ⟨key, other⟩ ∈ before.held) :
      Served before (.register key state) (.registered (.error .deviceBusy)) before
  | dropped {registration : Registration} {earlier later : List Registration}
      (held : before.held = earlier ++ registration :: later) :
      Served before (.drop earlier.length) .done
        { before with
          registry := ⟨(earlier ++ later).map Registration.entry⟩
          held := earlier ++ later }
  | found {key : AdapterKey} {state : StateRef} (held : ⟨key, state⟩ ∈ before.held) :
      Served before (.lookup key) (.found (some state)) before
  | absent {key : AdapterKey} (free : ∀ registration ∈ before.held, registration.key ≠ key) :
      Served before (.lookup key) (.found none) before
  | asked {key : AdapterKey} {state : StateRef} {request : PowerRequest}
      (held : ⟨key, state⟩ ∈ before.held) :
      Served before (.ask key request) .done
        { before with inquiries := before.inquiries ++ [⟨state, request⟩] }
  | notOurs {key : AdapterKey} {request : PowerRequest}
      (free : ∀ registration ∈ before.held, registration.key ≠ key) :
      Served before (.ask key request) (.disposed .notOurs) before
  | served {state : StateRef} {request : PowerRequest} {earlier later : List Inquiry}
      {disposition : PowerDisposition} {pool : RequestPool}
      (asked : before.inquiries = earlier ++ ⟨state, request⟩ :: later)
      (filtered : RequestPool.Filtered (before.states state).pool.entries request disposition
        pool.entries)
      (kept : disposition = .forward → pool = (before.states state).pool) :
      Served before (.serve earlier.length) (.disposed disposition)
        { before.setPool state pool with inquiries := earlier ++ later }
  | used {state : StateRef} {change : Device → Device} {calls : List PoolCall} :
      Served before (.use state change calls) .done
        (before.setState state
          { change (before.states state) with pool := (before.states state).pool.through calls })
  | dropless {index : Nat} (gone : before.held.length ≤ index) :
      Served before (.drop index) .done before
  | idle {index : Nat} (gone : before.inquiries.length ≤ index) :
      Served before (.serve index) .done before

/-- What a call makes of sound adapters. -/
structure Kept (capacity : StateRef → Nat) (adapters : Adapters) (call : AdapterCall) : Prop where
  sound : (adapters.answer call).2.Sound capacity
  served : adapters.Served call (adapters.answer call).1 (adapters.answer call).2

theorem kept_of_answer {call : AdapterCall} {answered : AdapterAnswer} {next : Adapters}
    (called : adapters.answer call = (answered, next)) (sound : next.Sound capacity)
    (served : adapters.Served call answered next) : Kept capacity adapters call where
  sound := by rwa [called]
  served := by rwa [called]

theorem Sound.setState (sound : adapters.Sound capacity) {device : Device}
    (pool : device.pool.Sound (capacity state)) :
    (adapters.setState state device).Sound capacity where
  distinct := sound.distinct
  listed := sound.listed
  pools other := by
    rw [states_setState]
    split
    · rename_i same
      rwa [same]
    · exact sound.pools other

theorem Sound.setInquiries (sound : adapters.Sound capacity) (inquiries : List Inquiry) :
    ({ adapters with inquiries } : Adapters).Sound capacity :=
  ⟨sound.distinct, sound.listed, sound.pools⟩

theorem Sound.register (sound : adapters.Sound capacity) (key : AdapterKey) (state : StateRef) :
    Kept capacity adapters (.register key state) := by
  cases held : adapters.registry.lookup key with
  | none =>
      have free := sound.lookup_eq_none_iff.mp held
      refine kept_of_answer (by simp only [answer, Registry.register_of_free held]) ?_
        (.registered free)
      refine ⟨?_, ?_, sound.pools⟩
      · rw [List.map_append]
        apply sound.distinct.append (List.nodup_singleton _)
        apply List.disjoint_singleton.mpr
        intro taken
        obtain ⟨registration, member, same⟩ := List.mem_map.mp taken
        exact free registration member same
      · rw [sound.listed, List.map_append]
        rfl
  | some other =>
      have taken := sound.lookup_eq_some_iff.mp held
      exact kept_of_answer (by simp only [answer, Registry.register, held]) sound (.refused taken)

section Drop

variable {registration : Registration} {earlier later : List Registration}

theorem Sound.distinct_parts (sound : adapters.Sound capacity)
    (held : adapters.held = earlier ++ registration :: later) :
    (∀ other ∈ earlier ++ later, other.key ≠ registration.key) ∧
      ((earlier ++ later).map Registration.key).Nodup := by
  have distinct := sound.distinct
  rw [held, List.map_append, List.map_cons, List.nodup_middle, ← List.map_append,
    List.nodup_cons] at distinct
  refine ⟨fun other member same => ?_, distinct.2⟩
  exact distinct.1 (List.mem_map.mpr ⟨other, member, same⟩)

/-- No registration but its own has the key that a drop takes from the registry. -/
theorem Sound.drop_entries (sound : adapters.Sound capacity)
    (held : adapters.held = earlier ++ registration :: later) :
    adapters.registry.drop registration.key = ⟨(earlier ++ later).map Registration.entry⟩ := by
  obtain ⟨apart, -⟩ := sound.distinct_parts held
  have kept : ∀ registrations ⊆ earlier ++ later,
      (registrations.map Registration.entry).filter (fun entry => entry.1 != registration.key) =
        registrations.map Registration.entry := by
    intro registrations among
    apply List.filter_eq_self.mpr
    intro entry member
    obtain ⟨other, here, rfl⟩ := List.mem_map.mp member
    exact bne_iff_ne.mpr (apart other (among here))
  rw [Registry.drop, sound.listed, held, List.map_append, List.map_cons, List.filter_append,
    List.filter_cons_of_neg (by simp [Registration.entry]),
    kept earlier (List.subset_append_left _ _), kept later (List.subset_append_right _ _),
    List.map_append]

end Drop

theorem Sound.drop (sound : adapters.Sound capacity) (index : Nat) :
    Kept capacity adapters (.drop index) := by
  cases there : adapters.held[index]? with
  | none =>
      exact kept_of_answer (by simp only [answer, there]) sound
        (.dropless (List.getElem?_eq_none_iff.mp there))
  | some registration =>
      obtain ⟨earlier, later, held, rfl, left⟩ := eraseIdx_of_getElem? there
      have answered : adapters.answer (.drop earlier.length) = (.done, { adapters with
          registry := ⟨(earlier ++ later).map Registration.entry⟩
          held := earlier ++ later }) := by
        simp only [answer, there, sound.drop_entries held, left]
      exact kept_of_answer answered ⟨(sound.distinct_parts held).2, rfl, sound.pools⟩
        (.dropped held)

theorem Sound.ask (sound : adapters.Sound capacity) (key : AdapterKey) (request : PowerRequest) :
    Kept capacity adapters (.ask key request) := by
  cases held : adapters.registry.lookup key with
  | none =>
      exact kept_of_answer (by simp only [answer, held]) sound
        (.notOurs (sound.lookup_eq_none_iff.mp held))
  | some state =>
      have answered : adapters.answer (.ask key request) = (.done, { adapters with
          inquiries := adapters.inquiries ++ [⟨state, request⟩] }) := by
        simp only [answer, held]
      exact kept_of_answer answered (sound.setInquiries _)
        (.asked (sound.lookup_eq_some_iff.mp held))

theorem Sound.serve (sound : adapters.Sound capacity) (index : Nat) :
    Kept capacity adapters (.serve index) := by
  cases there : adapters.inquiries[index]? with
  | none =>
      exact kept_of_answer (by simp only [answer, there]) sound
        (.idle (List.getElem?_eq_none_iff.mp there))
  | some inquiry =>
      obtain ⟨earlier, later, asked, rfl, left⟩ := eraseIdx_of_getElem? there
      obtain ⟨pool, filtered, kept⟩ := (sound.pools inquiry.state).filter inquiry.request
      have answered : adapters.answer (.serve earlier.length) =
          (.disposed (adapters.serve inquiry).1,
            { (adapters.serve inquiry).2 with inquiries := earlier ++ later }) := by
        simp only [answer, there, left]
      exact kept_of_answer answered ((sound.setState pool).setInquiries _)
        (.served asked filtered kept)

theorem Sound.answer (sound : adapters.Sound capacity) (call : AdapterCall) :
    Kept capacity adapters call := by
  cases call with
  | register key state => exact sound.register key state
  | drop index => exact sound.drop index
  | lookup key =>
      refine kept_of_answer rfl sound ?_
      cases held : adapters.registry.lookup key with
      | none => exact .absent (sound.lookup_eq_none_iff.mp held)
      | some state => exact .found (sound.lookup_eq_some_iff.mp held)
  | ask key request => exact sound.ask key request
  | serve index => exact sound.serve index
  | use state change calls =>
      exact kept_of_answer rfl (sound.setState ((sound.pools state).through calls)) .used

theorem Sound.through (sound : adapters.Sound capacity) (calls : List AdapterCall) :
    (adapters.through calls).Sound capacity := by
  induction calls generalizing adapters with
  | nil => exact sound
  | cons call calls ih => exact ih (sound.answer call).sound

/-! ## A request that nothing comes in between of -/

theorem lookup_devices (adapters : Adapters) (key : AdapterKey) :
    adapters.devices.lookup key = (adapters.registry.lookup key).map adapters.states := by
  unfold devices Registry.lookup
  induction adapters.registry.entries with
  | nil => rfl
  | cons entry entries ih =>
      rw [List.map_cons, List.lookup_cons, List.lookup_cons, ih]
      split
      · rfl
      · rfl

theorem filterPower_devices (adapters : Adapters) (key : AdapterKey) (request : PowerRequest) :
    adapters.devices.filterPower key request =
      match adapters.registry.lookup key with
      | none => (.notOurs, adapters.devices)
      | some state =>
          let (disposition, pool) := (adapters.states state).pool.filter request
          (disposition, adapters.devices.update key fun d => { d with pool }) := by
  rw [Registry.filterPower, lookup_devices]
  cases adapters.registry.lookup key with
  | none => rfl
  | some state => rfl

/-- An entry by entry update is an update of the state if the key alone refers to it. -/
theorem Sound.update_devices (sound : adapters.Sound capacity) (held : ⟨key, state⟩ ∈ adapters.held)
    (only : ∀ registration ∈ adapters.held, registration.state = state → registration.key = key)
    (pool : RequestPool) :
    adapters.devices.update key (fun d => { d with pool }) =
      (adapters.setPool state pool).devices := by
  unfold devices Registry.update
  rw [List.map_map]
  congr 1
  apply List.map_congr_left
  intro entry member
  rw [sound.listed] at member
  obtain ⟨registration, here, rfl⟩ := List.mem_map.mp member
  have alike : registration.key = key ↔ registration.state = state := by
    refine ⟨fun same => ?_, only registration here⟩
    rw [List.inj_on_of_nodup_map sound.distinct here held same]
  change (registration.key, _) = (registration.key, (adapters.setPool state pool).states _)
  rw [setPool, states_setState, ← if_congr alike rfl rfl]
  by_cases same : registration.key = key
  · rw [if_pos same, if_pos same, alike.mp same]
  · rw [if_neg same, if_neg same]

theorem Sound.filterPower (sound : adapters.Sound capacity) (key : AdapterKey)
    (request : PowerRequest) :
    ((adapters.devices.filterPower key request).1 = .notOurs ↔
        ∀ registration ∈ adapters.held, registration.key ≠ key) ∧
      ((adapters.devices.filterPower key request).1 = .selfOriginated ↔
        ∃ level state handle, request = .setDevice level ∧ ⟨key, state⟩ ∈ adapters.held ∧
          (handle, level) ∈ (adapters.states state).pool.entries) := by
  rw [filterPower_devices, ← sound.lookup_eq_none_iff]
  simp only [← sound.lookup_eq_some_iff]
  cases adapters.registry.lookup key with
  | none => simp
  | some state =>
      obtain ⟨-, filtered, -⟩ := (sound.pools state).filter request
      refine ⟨iff_of_false filtered.ne_notOurs nofun, filtered.selfOriginated_iff.trans ?_⟩
      constructor
      · rintro ⟨level, handle, asked, pending⟩
        exact ⟨level, state, handle, asked, rfl, pending⟩
      · rintro ⟨level, _, handle, asked, found, pending⟩
        cases found
        exact ⟨level, handle, asked, pending⟩

/-- Whatever is called in whatever order, the registry is its live registrations, one for each key,
and a power request goes by the pending requests of the state that is registered when it comes. -/
theorem registry_is_live_registrations (mux : StateRef → MuxConfig) (port : StateRef → String)
    (capacity : StateRef → Nat) (calls : List AdapterCall) :
    let adapters := (create mux port capacity).through calls
    (adapters.held.map Registration.key).Nodup ∧
      (∀ key state, adapters.registry.lookup key = some state ↔ ⟨key, state⟩ ∈ adapters.held) ∧
      (∀ call, adapters.Served call (adapters.answer call).1 (adapters.answer call).2) ∧
      ∀ key request,
        let filtered := adapters.devices.filterPower key request
        (filtered.1 = .notOurs ↔ ∀ registration ∈ adapters.held, registration.key ≠ key) ∧
          (filtered.1 = .selfOriginated ↔
            ∃ level state handle, request = .setDevice level ∧ ⟨key, state⟩ ∈ adapters.held ∧
              (handle, level) ∈ (adapters.states state).pool.entries) ∧
          ∀ state, ⟨key, state⟩ ∈ adapters.held →
            (∀ registration ∈ adapters.held,
              registration.state = state → registration.key = key) →
            filtered =
              ((adapters.serve ⟨state, request⟩).1, (adapters.serve ⟨state, request⟩).2.devices) := by
  intro adapters
  have sound : adapters.Sound capacity := (sound_create mux port capacity).through calls
  refine ⟨sound.distinct, fun _ _ => sound.lookup_eq_some_iff,
    fun call => (sound.answer call).served, fun key request => ?_⟩
  obtain ⟨notOurs, selfOriginated⟩ := sound.filterPower key request
  refine ⟨notOurs, selfOriginated, fun state held only => ?_⟩
  rw [filterPower_devices, sound.lookup_eq_some_iff.mpr held]
  exact Prod.ext rfl (sound.update_devices held only _)

end Adapters

end ModemLink
