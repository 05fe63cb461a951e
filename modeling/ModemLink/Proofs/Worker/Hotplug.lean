import ModemLink.Proofs.Worker.Outlook

/-!
# Devices that come and go

The worker learns of a device from its arrival, and of its end from its departure. Once it has
handled all events, its session is to a device that is there; and it has a session if there is a
device for one, unless the device in use left while the arrival of another was long handled.
-/

namespace ModemLink

/-! ## What the worker lacks -/

namespace Outlook

/-- There is a device to use, and none is used. -/
def Lacks (o : Outlook) : Prop := o.inUse = none ∧ ∃ n, o.Offers n

/-- The arrival of a device of the right kind is yet to be handled. -/
def Awaits (o : Outlook) : Prop :=
  ∃ n, .arrived n ∈ o.roster.events ∧ n < o.roster.devices.length ∧ o.Concerns n

/-- Nothing is registered but the key of the device in use. -/
def Registered (o : Outlook) : Prop :=
  ∀ key, o.registry.lookup key = if o.inUse.map Prod.snd = some key then some () else none

/-- The device in use is known, has the address of the key, and is there unless the worker is yet to
hear that it left. -/
structure Placed (o : Outlook) : Prop where
  watching : o.watching = true
  registered : o.Registered
  listed {n : Nat} {key : AdapterKey} (inUse : o.inUse = some (n, key)) :
    n < o.roster.devices.length
  concerns {n : Nat} {key : AdapterKey} (inUse : o.inUse = some (n, key)) : o.Concerns n
  locates {n : Nat} {key : AdapterKey} (inUse : o.inUse = some (n, key)) : o.Locates n key
  present {n : Nat} {key : AdapterKey} (inUse : o.inUse = some (n, key)) :
    (o.roster.device n).present = true ∨ .left n ∈ o.roster.events

/-- A device that is lacked is awaited. -/
def Heeds (o : Outlook) : Prop := o.Lacks → o.Awaits

variable {o after : Outlook}

/-! ## The device in use -/

theorem Registered.idle (registered : o.Registered) : o.idle.Registered := by
  intro key
  have known := registered key
  cases used : o.inUse with
  | none => simpa [Outlook.idle, used] using known
  | some use =>
      rw [used] at known
      by_cases same : key = use.2
      · simp [Outlook.idle, used, Registry.lookup_drop, same]
      · simpa [Outlook.idle, used, Registry.lookup_drop, same, Ne.symm same] using known

theorem Registered.take (registered : o.Registered) (free : o.inUse = none) {n : Nat}
    {key : AdapterKey} {registry : Registry Unit}
    (accepted : o.registry.register key () = .ok registry) :
    Registered { o with inUse := some (n, key), registry } := by
  intro other
  have known := registered other
  rw [free] at known
  rw [Registry.lookup_register accepted, known]
  by_cases same : other = key
  · simp [same]
  · simp [same, Ne.symm same]

theorem placed_of_free (watching : o.watching = true) (registered : o.Registered)
    (free : o.inUse = none) : o.Placed := by
  refine ⟨watching, registered, ?_, ?_, ?_, ?_⟩ <;>
    · intro n key inUse
      rw [free] at inUse
      cases inUse

theorem placed_of_offered {n : Nat} {key : AdapterKey} {registry : Registry Unit}
    (watching : o.watching = true)
    (registered : Registered { o with inUse := some (n, key), registry }) (offers : o.Offers n)
    (locates : o.Locates n key) :
    Placed { o with inUse := some (n, key), registry } := by
  refine ⟨watching, registered, ?_, ?_, ?_, ?_⟩ <;> rintro _ _ ⟨⟩
  · exact offers.listed
  · exact ⟨offers.vendor, offers.product⟩
  · exact locates
  · exact .inl offers.present

theorem Placed.idle (placed : o.Placed) : o.idle.Placed :=
  placed_of_free placed.watching placed.registered.idle rfl

theorem Placed.plug (placed : o.Placed) (listing : Listing) :
    Placed { o with roster := o.roster.plug listing } := by
  have same {n : Nat} {key : AdapterKey} (inUse : o.inUse = some (n, key)) :
      (o.roster.plug listing).device n = o.roster.device n :=
    o.roster.device_plug listing (placed.listed inUse)
  refine ⟨placed.watching, placed.registered, fun inUse => ?_, fun inUse => ?_, fun inUse => ?_,
    fun inUse => ?_⟩
  · simpa [Roster.plug] using Nat.lt_succ_of_lt (placed.listed inUse)
  · have concerns := placed.concerns inUse
    rwa [Concerns, ← same inUse] at concerns
  · have locates := placed.locates inUse
    rwa [Locates, ← same inUse] at locates
  · obtain present | waits := placed.present inUse
    · exact .inl (by rw [same inUse]; exact present)
    · exact .inr (List.mem_append_left _ waits)

theorem Placed.unplug (placed : o.Placed) (m : Nat) :
    Placed { o with roster := o.roster.unplug m } := by
  refine ⟨placed.watching, placed.registered, fun inUse => ?_, fun {n key} inUse => ?_,
    fun {n key} inUse => ?_, fun {n key} inUse => ?_⟩
  · simpa [Roster.unplug] using placed.listed inUse
  · have concerns := placed.concerns inUse
    obtain same | ⟨-, gone⟩ := o.roster.device_unplug m n
    · rwa [Concerns, ← same] at concerns
    · simpa [Concerns, gone] using concerns
  · have locates := placed.locates inUse
    obtain same | ⟨-, gone⟩ := o.roster.device_unplug m n
    · rwa [Locates, ← same] at locates
    · simpa [Locates, gone] using locates
  · obtain same | ⟨rfl, -⟩ := o.roster.device_unplug m n
    · obtain present | waits := placed.present inUse
      · exact .inl (by rw [same]; exact present)
      · exact .inr (List.mem_append_left _ waits)
    · exact .inr (by simp [Roster.unplug])

theorem Placed.handles (placed : o.Placed) {event : PlugEvent}
    (waits : o.roster.events.head? = some event) (handles : o.Handles event after) :
    after.Placed := by
  cases handles with
  | ignore _ arrival departure =>
      refine ⟨placed.watching, placed.registered, placed.listed, placed.concerns,
        placed.locates, fun {n key} inUse => ?_⟩
      obtain present | leaving := placed.present inUse
      · exact .inl present
      · -- The departure of the device in use would not have been ignored.
        obtain ⟨rest, queue⟩ : ∃ rest, o.roster.events = event :: rest :=
          List.head?_eq_some_iff.mp waits
        rw [queue, List.mem_cons] at leaving
        obtain rfl | later := leaving
        · exact absurd (placed.locates inUse) (departure n n key rfl inUse (placed.concerns inUse))
        · exact .inr (by simpa [shift, queue] using later)
  | miss n concerns free => exact placed_of_free placed.watching placed.registered free
  | take n m key registry free offers locates accepted =>
      have offered : o.shift.Offers m :=
        ⟨offers.listed, offers.present, offers.vendor, offers.product⟩
      exact placed_of_offered (o := o.shift) placed.watching
        (placed.registered.take free accepted) offered locates
  | leave n => exact placed_of_free placed.watching placed.registered.idle rfl

/-! ## Devices that are not in use -/

theorem Heeds.plug (heeds : o.Heeds) (listing : Listing) :
    Heeds { o with roster := o.roster.plug listing } := by
  rintro ⟨free, n, offers⟩
  by_cases listed : n < o.roster.devices.length
  · have offered : o.Offers n := by
      have same := o.roster.device_plug listing listed
      exact ⟨listed, same ▸ offers.present, same ▸ offers.vendor, same ▸ offers.product⟩
    obtain ⟨m, waits, inside, concerned⟩ := heeds ⟨free, n, offered⟩
    refine ⟨m, List.mem_append_left _ waits, ?_, ?_⟩
    · simpa [Roster.plug] using Nat.lt_succ_of_lt inside
    · rwa [Concerns, ← o.roster.device_plug listing inside] at concerned
  · -- What is lacked is the device that has just been plugged in.
    have last : n = o.roster.devices.length := by
      have bound := offers.listed
      simp only [Roster.plug, List.length_append, List.length_singleton] at bound
      omega
    subst last
    refine ⟨_, by simp [Roster.plug], offers.listed, offers.vendor, offers.product⟩

theorem Heeds.unplug (heeds : o.Heeds) (m : Nat) :
    Heeds { o with roster := o.roster.unplug m } := by
  rintro ⟨free, n, offers⟩
  have listed (k : Nat) : k < (o.roster.unplug m).devices.length ↔ k < o.roster.devices.length := by
    simp [Roster.unplug]
  have offered : o.Offers n := by
    obtain same | ⟨-, gone⟩ := o.roster.device_unplug m n
    · exact ⟨(listed n).mp offers.listed, same ▸ offers.present, same ▸ offers.vendor,
        same ▸ offers.product⟩
    · have present := offers.present
      simp [gone] at present
  obtain ⟨k, waits, inside, concerned⟩ := heeds ⟨free, n, offered⟩
  refine ⟨k, List.mem_append_left _ waits, (listed k).mpr inside, ?_⟩
  obtain same | ⟨-, gone⟩ := o.roster.device_unplug m k
  · rwa [Concerns, ← same] at concerned
  · simpa [Concerns, gone] using concerned

/-- An event that is not the arrival that is awaited leaves it waiting. -/
theorem Awaits.shift (awaits : o.Awaits) {event : PlugEvent}
    (waits : o.roster.events.head? = some event)
    (other : ∀ n, event = .arrived n → ¬o.Concerns n) : o.shift.Awaits := by
  obtain ⟨n, queued, inside, concerned⟩ := awaits
  obtain ⟨rest, queue⟩ : ∃ rest, o.roster.events = event :: rest :=
    List.head?_eq_some_iff.mp waits
  rw [queue, List.mem_cons] at queued
  obtain rfl | later := queued
  · exact absurd concerned (other n rfl)
  · exact ⟨n, by simpa [Outlook.shift, queue] using later, inside, concerned⟩

theorem Heeds.handles (heeds : o.Heeds) {event : PlugEvent}
    (waits : o.roster.events.head? = some event) (handles : o.Handles event after)
    (fares : ∀ n, event = .arrived n → o.Concerns n → ¬after.Lacks)
    (safe : o.inUse ≠ none → after.Lacks → after.Awaits) : after.Heeds := by
  intro lacks
  by_cases free : o.inUse = none
  · have lacked : o.Lacks := by
      cases handles with
      | ignore | miss | leave =>
          obtain ⟨-, n, offers⟩ := lacks
          exact ⟨free, n, offers.1, offers.2, offers.3, offers.4⟩
      | take => cases lacks.1
    have other (n : Nat) (arrived : event = .arrived n) (concerned : o.Concerns n) : False :=
      fares n arrived concerned lacks
    have awaited := (heeds lacked).shift waits other
    cases handles with
    | ignore | miss | leave => exact awaited
    | take => cases lacks.1
  · exact safe free lacks

end Outlook

namespace Worker

/-- The devices that a session could be opened to. -/
def candidates (worker : Worker) : List Nat :=
  (List.range worker.bus.devices.length).filter fun n =>
    (worker.bus.device n).present && worker.matchesDevice (worker.bus.device n)

def lacks (worker : Worker) : Bool :=
  worker.attachment.session?.isNone && !worker.candidates.isEmpty

def awaits (worker : Worker) : Bool :=
  worker.bus.events.any fun
    | .arrived n =>
        decide (n < worker.bus.devices.length) && worker.matchesDevice (worker.bus.device n)
    | .left _ => false

/-- The device that a worker without a session would open, if there is one, is opened and starts. -/
def starts (worker : Worker) : Bool :=
  match worker.attachment with
  | .attached _ => true
  | .detached { bus, disk } =>
      let { vendorId, productId, .. } := worker.settings
      worker.candidates.isEmpty ||
        match (Bus.openLink vendorId productId).run.run bus, openStore disk with
        | (.ok handle, bus), .ok store =>
            (Session.start.exec (worker.newSession ⟨bus, handle⟩ store)).1.isOk
        | _, _ => false

/-- A device that has arrived starts, a poll does not find the device of the session gone, and no
command finds it so. -/
def fares (worker : Worker) (move : Move) : Bool :=
  match move with
  | .event =>
      match worker.nextEvent? with
      | some (.arrived n) => !worker.matchesDevice (worker.bus.device n) ||
          (worker.setBus (Bus.handleEvents.run.run worker.bus).2).starts
      | _ => true
  | .poll => worker.attachment.session?.all fun session => (tend.exec session).1.isOk
  | .command command => !command.isFatal worker.attachment.session?
  | _ => true

/-- The device in use leaves while another one is there that no arrival will draw attention to. -/
def strands (worker : Worker) (move : Move) : Bool :=
  match move with
  | .event =>
      worker.attachment.session?.isSome && (worker.next .event).lacks &&
        !(worker.next .event).awaits
  | _ => false

theorem mem_candidates (worker : Worker) (n : Nat) :
    n ∈ worker.candidates ↔ worker.outlook.Offers n := by
  have listed : worker.outlook.roster.device n = (worker.bus.device n).listing :=
    worker.bus.roster_device n
  rw [candidates, List.mem_filter, List.mem_range, Bool.and_eq_true, concerns_iff]
  constructor
  · rintro ⟨inside, present, vendor, product⟩
    refine ⟨by simpa [outlook, Bus.roster] using inside, ?_, vendor, product⟩
    rw [listed]
    exact present
  · rintro ⟨inside, present, vendor, product⟩
    rw [listed] at present
    exact ⟨by simpa [outlook, Bus.roster] using inside, present, vendor, product⟩

theorem lacks_iff (worker : Worker) : worker.lacks = true ↔ worker.outlook.Lacks := by
  have offered : worker.candidates.isEmpty = false ↔ ∃ n, worker.outlook.Offers n := by
    simp only [← mem_candidates]
    cases worker.candidates with
    | nil => simp
    | cons n rest => simp
  have free : worker.attachment.session?.isNone = true ↔ worker.outlook.inUse = none := by
    simp [outlook]
  rw [lacks, Bool.and_eq_true, Bool.not_eq_true', free, offered, Outlook.Lacks]

theorem awaits_iff (worker : Worker) : worker.awaits = true ↔ worker.outlook.Awaits := by
  have listed (n : Nat) : n < worker.bus.devices.length ↔
      n < worker.outlook.roster.devices.length := by simp [outlook, Bus.roster]
  rw [awaits, List.any_eq_true]
  constructor
  · rintro ⟨event, waits, concerned⟩
    cases event with
    | arrived n =>
        rw [Bool.and_eq_true, decide_eq_true_iff, listed, concerns_iff] at concerned
        exact ⟨n, waits, concerned⟩
    | left n => cases concerned
  · rintro ⟨n, waits, inside, concerned⟩
    refine ⟨.arrived n, waits, ?_⟩
    rw [Bool.and_eq_true, decide_eq_true_iff, listed, concerns_iff]
    exact ⟨inside, concerned⟩

/-! ## Moves -/

theorem next_placed (worker : Worker) (move : Move) (placed : worker.outlook.Placed) :
    (worker.next move).outlook.Placed := by
  cases move with
  | plug device =>
      rw [plug_outlook]
      exact placed.plug device.listing
  | unplug n =>
      rw [unplug_outlook]
      exact placed.unplug n
  | event =>
      obtain ⟨-, same⟩ | ⟨event, -, waits, handles⟩ := worker.event_outlook placed.watching
      · rwa [same]
      · exact placed.handles waits handles
  | loops => rwa [loops_outlook]
  | poll =>
      obtain same | ⟨lost, -⟩ := worker.poll_outlook
      · rwa [same]
      · rw [lost]
        exact placed.idle
  | command command =>
      obtain same | ⟨lost, -⟩ := worker.command_outlook command
      · rwa [same]
      · rw [lost]
        exact placed.idle

theorem startSession_of_starts {worker : Worker} {link : Link} {disk : Option Disk} {store : Store}
    (stored : openStore disk = .ok store)
    (vacant : worker.registry.lookup (worker.newSession link store).key = none)
    (starts : (Session.start.exec (worker.newSession link store)).1.isOk = true) :
    (worker.startSession link disk).outlook.inUse ≠ none := by
  have occupied : worker.post.occupy (worker.newSession link store) =
      .ok ⟨some (worker.newSession link store),
        ⟨worker.registry.entries ++ [((worker.newSession link store).key, ())]⟩⟩ := by
    simp only [Post.occupy, post, Registry.register_of_free vacant]
  simp only [startSession, stored, occupied]
  cases ran : Session.start.exec (worker.newSession link store) with
  | mk result session =>
      rw [ran] at starts
      cases result with
      | ok _ => rintro ⟨⟩
      | error e => cases starts

/-- A worker that opens and starts the device that it finds does not lack one. -/
theorem attach_of_starts {worker : Worker} (starts : worker.starts = true)
    (registered : worker.outlook.Registered) : ¬worker.attach.outlook.Lacks := by
  rintro ⟨free, n, offers⟩
  obtain same | ⟨m, key, registry, -, -, -, -, taken⟩ := worker.attach_outlook
  · rw [same] at offers
    have idle := free
    rw [same] at idle
    unfold Worker.starts at starts
    split at starts
    · rename_i session held
      simp [outlook, held, Attachment.session?] at idle
    · rename_i bus disk held
      have offered : worker.candidates.isEmpty = false := by
        have member := (worker.mem_candidates n).mpr offers
        cases listed : worker.candidates with
        | nil =>
            rw [listed] at member
            cases member
        | cons _ _ => rfl
      dsimp only at starts
      rw [offered, Bool.false_or] at starts
      split at starts
      · rename_i handle after store opened stored
        have attached : worker.attach = worker.startSession ⟨after, handle⟩ disk := by
          simp only [attach, held, opened]
        have vacant : worker.registry.lookup (worker.newSession ⟨after, handle⟩ store).key =
            none := by
          have known := registered (worker.newSession ⟨after, handle⟩ store).key
          rwa [idle] at known
        rw [attached] at free
        exact startSession_of_starts stored vacant starts free
      · cases starts
  · rw [taken] at free
    cases free

theorem next_heeds (worker : Worker) (move : Move) (placed : worker.outlook.Placed)
    (heeds : worker.outlook.Heeds) (fares : worker.fares move = true)
    (safe : worker.strands move = false) : (worker.next move).outlook.Heeds := by
  cases move with
  | plug device =>
      rw [plug_outlook]
      exact heeds.plug device.listing
  | unplug n =>
      rw [unplug_outlook]
      exact heeds.unplug n
  | loops => rwa [loops_outlook]
  | poll =>
      obtain same | ⟨-, session, e, held, failed⟩ := worker.poll_outlook
      · rwa [same]
      · simp [Worker.fares, held, failed, Except.isOk, Except.toBool] at fares
  | command command =>
      obtain same | ⟨-, fatal⟩ := worker.command_outlook command
      · rwa [same]
      · simp [Worker.fares, fatal] at fares
  | event =>
      obtain ⟨-, same⟩ | ⟨event, next, waits, handles⟩ := worker.event_outlook placed.watching
      · rwa [same]
      · refine heeds.handles waits handles (fun n arrived concerned => ?_) fun inUse lacks => ?_
        · subst arrived
          obtain ⟨shifted, attached⟩ := next_arrived placed.watching next concerned
          rw [← concerns_iff] at concerned
          rw [attached]
          refine attach_of_starts ?_ ?_
          · simpa [Worker.fares, next, concerned] using fares
          · rw [shifted]
            exact placed.registered
        · have held : worker.attachment.session?.isSome = true := by
            simpa [outlook, Option.isSome_iff_ne_none] using inUse
          rw [← lacks_iff] at lacks
          rw [← awaits_iff]
          simpa [strands, held, lacks] using safe

/-! ## Runs -/

theorem through_placed (worker : Worker) (moves : List Move) (placed : worker.outlook.Placed) :
    (worker.through moves).outlook.Placed := by
  induction moves generalizing worker with
  | nil => exact placed
  | cons move moves ih => exact ih _ (next_placed worker move placed)

theorem through_heeds (worker : Worker) (moves : List Move) (placed : worker.outlook.Placed)
    (heeds : worker.outlook.Heeds) (fares : worker.along Worker.fares moves = true)
    (safe : worker.along (fun worker move => !worker.strands move) moves = true) :
    (worker.through moves).outlook.Heeds := by
  induction moves generalizing worker with
  | nil => exact heeds
  | cons move moves ih =>
      obtain ⟨fares, faresOn⟩ := Bool.and_eq_true_iff.mp fares
      obtain ⟨safe, safeOn⟩ := Bool.and_eq_true_iff.mp safe
      -- What a move does to a worker that lacks a device is known only while the device in use is
      -- well placed, so both go through the run together.
      refine ih _ (next_placed worker move placed) ?_ faresOn safeOn
      exact next_heeds worker move placed heeds fares (by simpa using safe)

theorem attach_placed {worker : Worker} (placed : worker.outlook.Placed) :
    worker.attach.outlook.Placed := by
  obtain same | ⟨n, key, registry, free, offers, locates, accepted, taken⟩ := worker.attach_outlook
  · rwa [same]
  · rw [taken]
    exact Outlook.placed_of_offered placed.watching (placed.registered.take free accepted) offers
      locates

theorem launch_watching {settings : WorkerSettings} {bus : Bus} {disk : Option Disk}
    (watching : (prepare settings bus disk).2.watching = true) :
    launch settings bus disk = (prepare settings bus disk).2.attach ∧
      (prepare settings bus disk).2.outlook.Placed := by
  unfold launch prepare at *
  dsimp only at watching ⊢
  split at watching
  · cases watching
  · split at watching
    · cases watching
    · rename_i hotplug
      rw [if_neg hotplug]
      split at watching
      · exact ⟨rfl, Outlook.placed_of_free rfl (fun _ => rfl) rfl⟩
      · cases watching

/-- Whatever came and went, once all events are handled a session is to a device that is there. As
long as no device in use leaves one behind that nothing draws attention to, there is a session just
if there is a device for it. -/
theorem hotplug_is_level_correct (settings : WorkerSettings) (bus : Bus) (disk : Option Disk)
    (moves : List Move) (watching : (prepare settings bus disk).2.watching = true)
    (starts : (prepare settings bus disk).2.starts = true)
    (fares : (launch settings bus disk).along Worker.fares moves = true)
    (handled : ((launch settings bus disk).through moves).bus.events = []) :
    let worker := (launch settings bus disk).through moves
    (∀ session, worker.attachment.session? = some session → ∃ n ∈ worker.candidates,
      session.key.bus = (worker.bus.device n).bus ∧
        session.key.address = (worker.bus.device n).address) ∧
    ((launch settings bus disk).along (fun worker move => !worker.strands move) moves = true →
      (worker.attachment.session?.isSome = true ↔ worker.candidates ≠ [])) := by
  intro worker
  obtain ⟨launched, prepared⟩ := launch_watching watching
  have beginning : (launch settings bus disk).outlook.Placed := by
    rw [launched]
    exact attach_placed prepared
  have placed : worker.outlook.Placed := through_placed _ moves beginning
  have found (session : Session Link) (held : worker.attachment.session? = some session) :
      ∃ n ∈ worker.candidates, session.key.bus = (worker.bus.device n).bus ∧
        session.key.address = (worker.bus.device n).address := by
    have inUse : worker.outlook.inUse = some (session.host.handle.device, session.key) := by
      simp [outlook, held]
    refine ⟨session.host.handle.device, (worker.mem_candidates _).mpr ?_, ?_⟩
    · obtain present | leaving := placed.present inUse
      · exact ⟨placed.listed inUse, present, placed.concerns inUse |>.1, placed.concerns inUse |>.2⟩
      · rw [show worker.outlook.roster.events = [] from handled] at leaving
        cases leaving
    · have located := placed.locates inUse
      rw [Outlook.Locates, show worker.outlook.roster.device session.host.handle.device = _ from
        worker.bus.roster_device _] at located
      exact located
  refine ⟨found, fun safe => ⟨fun held => ?_, fun offered => ?_⟩⟩
  · obtain ⟨session, held⟩ := Option.isSome_iff_exists.mp held
    obtain ⟨n, member, -⟩ := found session held
    exact List.ne_nil_of_mem member
  · by_contra idle
    have initially : (launch settings bus disk).outlook.Heeds := fun lacks => by
      rw [launched] at lacks
      exact absurd lacks (attach_of_starts starts prepared.registered)
    have heeds : worker.outlook.Heeds := through_heeds _ moves beginning initially fares safe
    have lacks : worker.lacks = true := by
      simpa [lacks, offered] using idle
    obtain ⟨n, waits, -⟩ := heeds ((lacks_iff worker).mp lacks)
    rw [show worker.outlook.roster.events = [] from handled] at waits
    cases waits

/-- The device in use leaves; before the worker hears of it another one is plugged in at the same
address, and a third one beside it. -/
theorem hotplug_is_level_correct_address_reused :
    let worker := (launch {} { devices := [{}] } none).through
      [.unplug 0, .plug {}, .plug { address := 8 }, .event, .event, .event, .loops, .poll,
        .command .open]
    worker.attachment.session?.isSome = true ∧
      ∀ session, worker.attachment.session? = some session → ∃ n ∈ worker.candidates,
        session.key.bus = (worker.bus.device n).bus ∧
          session.key.address = (worker.bus.device n).address := by
  intro worker
  have correct := hotplug_is_level_correct {} { devices := [{}] } none
    [.unplug 0, .plug {}, .plug { address := 8 }, .event, .event, .event, .loops, .poll,
      .command .open]
    (by decide +kernel) (by decide +kernel) (by decide +kernel) (by decide +kernel)
  exact ⟨(correct.2 (by decide +kernel)).mpr (by decide +kernel), correct.1⟩

/-- The device in use leaves while another one is there, which is never heard of again. -/
theorem departure_leaves_device_behind :
    let launched := launch {} { devices := [{}, { address := 8 }] } none
    let worker := launched.through [.unplug 0, .event]
    (prepare {} { devices := [{}, { address := 8 }] } none).2.watching = true ∧
      (prepare {} { devices := [{}, { address := 8 }] } none).2.starts = true ∧
      launched.along Worker.fares [.unplug 0, .event] = true ∧ worker.bus.events = [] ∧
      worker.candidates = [1] ∧ worker.attachment.session?.isSome = false := by
  decide +kernel

end Worker

end ModemLink
