import ModemLink.Proofs.Session.Restart

/-!
# The persistent counters

What a session with an empty store has counted in it: each start that was announced, and each
request for D0 that found the device without power, whatever became of it.
-/

namespace ModemLink

open Act Footprint

variable {η α β γ : Type}

def Event.isAnnouncement : Event → Bool
  | .notify (.deviceStarted _) => true
  | _ => false

namespace StoreValue

/-- A counter that was absent and has been counted up `n` times, modulo 2^32. -/
def tally (n : Nat) : Option StoreValue := if n = 0 then none else some (.number (UInt32.ofNat n))

theorem next_tally (n : Nat) : some (.number (next (tally n))) = tally (n + 1) := by
  cases n with
  | zero => rfl
  | succ n => simp [tally, next, number?, UInt32.ofNat_add]

end StoreValue

/-- The counters of a session, and how often it has announced a start. -/
structure Books where
  stamp : Except DriverError (Option StoreValue)
  restarts : Except DriverError (Option StoreValue)
  announced : Nat

/-- The books after these many starts and restarts. -/
def Books.of (starts restarts : Nat) : Books where
  stamp := .ok (StoreValue.tally starts)
  restarts := .ok (StoreValue.tally restarts)
  announced := starts

/-- One start more is stamped, and not announced yet. -/
def Books.stamped (starts restarts : Nat) : Books :=
  { of starts restarts with stamp := .ok (StoreValue.tally (starts + 1)) }

namespace Session

/-! ## What is to be counted -/

def announced (session : Session η) : Nat := session.trace.toList.countP Event.isAnnouncement

def books (session : Session η) : Books where
  stamp := session.store.get .deviceStamp
  restarts := session.store.get .ssrCounter
  announced := session.announced

/-- The session in which the driver asks for D0 itself, if the device is at a low level and the pool
has room for the request. -/
def wakes? (session : Session η) : Option (Session η) :=
  if session.device.power.device.isLow then
    match session.device.pool.push .d0 with
    | .ok (_, pool) => some { session with device.pool := pool }
    | .error _ => none
  else none

/-- The session in which an operation asks for D0, be it the host's request or the driver's own. -/
def asks? (session : Session η) : Operation → Option (Session η)
  | .power (.setDevice .d0) => some session
  | .open => if session.device.lifecycle = .started false then session.wakes? else none
  | .send .. => if session.device.lifecycle.inService then session.wakes? else none
  | _ => none

variable [Host η]

/-- A start takes the device from the present to the started state. -/
def launches (session : Session η) : Bool :=
  let (result, after) := (start : Act η Unit).exec session
  session.device.lifecycle == .present && result.isOk && after.device.lifecycle == .started false

def relaunches (session : Session η) : Bool :=
  session.lost && ((vacate : Act η Bool).exec session.raised).2.launches

/-- A happening takes the device from the present to the started state. -/
def launchedBy (session : Session η) : Happening → Bool
  | .operation .start => session.launches
  | .operation operation => (session.asks? operation).any relaunches
  | _ => false

/-- A happening asks for D0 after a loss of power. -/
def restartedBy (session : Session η) : Happening → Bool
  | .operation operation => (session.asks? operation).any lost
  | _ => false

/-- How many happenings of a run pass the test, each in the session that it finds. -/
def countAlong (test : Session η → Happening → Bool) : Session η → List Happening → Nat
  | _, [] => 0
  | session, happening :: happenings =>
      (test session happening).toNat + (session.next happening).countAlong test happenings

end Session

open Session

namespace Books

variable {session : Session η} {starts restarts : Nat}

theorem eq_of (known : session.books = .of starts restarts) :
    session.store.get .deviceStamp = .ok (StoreValue.tally starts) ∧
      session.store.get .ssrCounter = .ok (StoreValue.tally restarts) ∧
      session.announced = starts :=
  ⟨congrArg Books.stamp known, congrArg Books.restarts known, congrArg Books.announced known⟩

theorem books_eq {stamp restarted : Except DriverError (Option StoreValue)} {announced : Nat}
    (stamped : session.store.get .deviceStamp = stamp)
    (counted : session.store.get .ssrCounter = restarted)
    (noted : session.announced = announced) : session.books = ⟨stamp, restarted, announced⟩ := by
  subst stamped counted noted
  rfl

theorem push_other {event : Event} (session : Session η) (other : event.isAnnouncement = false) :
    ({ session with trace := session.trace.push event } : Session η).books = session.books := by
  simp [Session.books, Session.announced, other]

theorem overlooksPower : OverlooksPower (Session.books : Session η → Books) where
  host _ _ := rfl
  serial session value := by
    simp [Session.books, Session.announced, Store.get_set_other]
  device _ _ _ := rfl
  trace session event routine := by
    apply push_other
    cases event with
    | notify => cases routine
    | _ => rfl
  loops _ _ := rfl
  starting session name ok := push_other session rfl
  stopping session name tag wait ok := push_other session rfl
  power _ _ := rfl
  notices session notification notice := by
    apply push_other
    cases notification with
    | deviceStarted => cases notice
    | _ => rfl

theorem spares_apply (event : LifecycleEvent) :
    (apply event : Act η Unit).Spares Session.books := by
  refine passes_device.spares.seq fun d => ?_
  split
  · exact fun _ => rfl
  · exact spares_throw _

theorem maintains_apply (books : Books) (event : LifecycleEvent) :
    (apply event : Act η Unit).Maintains Session.books (· = books) :=
  (spares_apply event).maintains

/-! ## Counting up -/

theorem brings_stamp : (attempt (storeIncrement .deviceStamp) : Act η Unit).Brings Session.books
    (.of starts restarts) (.stamped starts restarts) := by
  refine brings_storeIncrement (fun _ => overlooksPower.passes_emit rfl)
    (overlooksPower.passes_emit rfl) (fun _ known => (eq_of known).1) fun session known => ?_
  obtain ⟨stamp, restarted, announced⟩ := eq_of known
  have apart : StoreKey.ssrCounter ≠ .deviceStamp := by simp
  refine books_eq ?_ ((Store.get_set_other apart).trans restarted) announced
  exact (Store.get_set stamp).trans (congrArg _ (StoreValue.next_tally starts))

theorem brings_restarts : (attempt (storeIncrement .ssrCounter) : Act η Unit).Brings Session.books
    (.of starts restarts) (.of starts (restarts + 1)) := by
  refine brings_storeIncrement (fun _ => overlooksPower.passes_emit rfl)
    (overlooksPower.passes_emit rfl) (fun _ known => (eq_of known).2.1) fun session known => ?_
  obtain ⟨stamp, restarted, announced⟩ := eq_of known
  have apart : StoreKey.deviceStamp ≠ .ssrCounter := by simp
  refine books_eq ((Store.get_set_other apart).trans stamp) ?_ announced
  exact (Store.get_set restarted).trans (congrArg _ (StoreValue.next_tally restarts))

/-! ## What does not show in the books -/

variable [Host η]

theorem launching_misses_books : (launching η).Misses (Session.books : Session η → Books) := by
  intro change s t allowed makes
  cases makes with
  | store _ key value =>
      cases allowed
      exact overlooksPower.serial s value
  | event _ event =>
      apply push_other
      cases event with
      | notify => cases allowed
      | _ => rfl
  | pool | level | tenancy | suspension | waitWake | system => cases allowed
  | _ => rfl

theorem spares_launch {act : Act η α} (within : act.Within (launching η)) :
    act.Spares Session.books :=
  within.spares launching_misses_books

theorem spares_dropConfiguration : (Session.dropConfiguration : Act η Unit).Spares Session.books :=
  spares_launch Session.within_dropConfiguration

theorem spares_attach : (Session.attach : Act η Unit).Spares Session.books :=
  spares_of_maintains fun books =>
    overlooksPower.maintains_attach (maintains_apply books _) (maintains_apply books _)

/-- A start that ends well is stamped and announced. -/
theorem takes_startPresent : (startPresent : Act η Unit).Takes Session.books (.of starts restarts)
    fun result books => books = .of (starts + result.isOk.toNat) restarts := by
  have told (identity : Identity) : (notify (.deviceStarted identity) : Act η Unit).Takes
      Session.books (.stamped starts restarts)
      fun result books => books = .of (starts + result.isOk.toNat) restarts := by
    intro session known
    have announced : session.announced = starts := congrArg Books.announced known
    refine books_eq (congrArg Books.stamp known) (congrArg Books.restarts known) ?_
    simp [Session.announced, Event.isAnnouncement, ← announced, Except.isOk, Except.toBool]
  have undone : (tryCatch startSequence fun e => do
      rollbackStart
      throw e : Act η Unit).Spares Session.books :=
    (spares_launch within_startSequence).tryCatch fun e =>
      (spares_launch within_rollbackStart).seq fun _ => spares_throw e
  refine (spares_apply _).bind (fun _ => undone.bind (fun _ => ?_) fun _ => rfl) fun _ => rfl
  exact (overlooksPower.passes_onPower _).bind fun _ => brings_stamp.bind fun _ =>
    passes_device.bind fun d => told _

theorem takes_vacate : (vacate : Act η Bool).Takes Session.books (.of starts restarts)
    fun result books => books = .of starts (restarts + result.isOk.toNat) := by
  refine passes_device.bind fun d => (overlooksPower.passes_stopAll _ _ _ _).bind fun _ => ?_
  refine takes_either ?_ fun rest => (spares_apply _).bind (fun _ => rest) fun _ => rfl
  refine (spares_launch within_releaseInterfaces).bind (fun _ => ?_) fun _ => rfl
  refine (spares_apply _).bind (fun _ => ?_) fun _ => rfl
  exact (overlooksPower.passes_onPower _).bind fun _ => brings_restarts.bind fun _ => takes_pure rfl

/-! ## Starts and restarts -/

theorem launches_eq (unstarted : session.device.lifecycle.isStarted = false) :
    session.launches = ((start : Act η Unit).exec session).1.isOk := by
  have starts : session.core.Starts _ _ := leads_start session rfl
  unfold launches
  revert starts
  cases (start : Act η Unit).exec session with
  | mk result after =>
      intro starts
      generalize reached : after.core = d at starts
      cases starts with
      | already started => exact absurd (started.symm.trans unstarted) nofun
      | refused | undone => simp [Except.isOk, Except.toBool]
      | begun present =>
          rw [Core.begun_eq] at reached
          have present : session.device.lifecycle = .present := present
          have begun : after.device.lifecycle = .started false := congrArg Core.lifecycle reached
          simp [present, begun]

theorem books_start (known : session.books = .of starts restarts) :
    ((start : Act η Unit).exec session).2.books =
      .of (starts + session.launches.toNat) restarts := by
  have unmoved {inert : Except DriverError Unit} (moot : session.device.lifecycle ≠ .present)
      (ran : (start : Act η Unit).exec session = (inert, session)) :
      ((start : Act η Unit).exec session).2.books =
        .of (starts + session.launches.toNat) restarts := by
    rw [launches, ran, beq_false_of_ne moot]
    exact known
  have fresh (unstarted : session.device.lifecycle.isStarted = false)
      (ran : (start : Act η Unit).exec session = startPresent.exec session) :
      ((start : Act η Unit).exec session).2.books =
        .of (starts + session.launches.toNat) restarts := by
    rw [launches_eq unstarted, ran]
    exact takes_startPresent session known
  -- Only from the absent and the present state is a start attempted.
  have ran : (start : Act η Unit).exec session = _ := exec_bind_ok (exec_device session)
  cases state : session.device.lifecycle with
  | started => exact unmoved (by rw [state]; nofun) (by rw [ran, state]; rfl)
  | surpriseRemoved | removed => exact unmoved (by rw [state]; nofun) (by rw [ran, state]; rfl)
  | absent | present => exact fresh (by rw [state]; rfl) (by rw [ran, state])

theorem books_restart (known : session.books = .of starts restarts) :
    ((reinit : Act η Unit).exec session).2.books =
      if session.device.lifecycle.isPresent then
        .of (starts + ((vacate : Act η Bool).exec session).2.launches.toNat) (restarts + 1)
      else .of starts restarts := by
  have counted := takes_vacate session known
  have ended : _ = session.device.lifecycle.isPresent := leads_vacate session rfl
  rw [reinit_eq, exec_bind, ← ended]
  revert counted
  cases (vacate : Act η Bool).exec session with
  | mk result vacated =>
      cases result with
      | error e => exact id
      | ok wasOpen =>
          -- The count stays, whatever becomes of the start.
          intro counted
          have attended : (if wasOpen then attach else pure () :
              Act η Unit).Spares Session.books := by
            split
            · exact spares_attach
            · exact spares_pure ()
          exact (view_bind (fun _ => attended) vacated).trans (books_start counted)

/-! ## Requests for D0 -/

theorem books_wake (known : session.books = .of starts restarts)
    (arrived : session.device.lifecycle ≠ .absent) :
    ((setDevicePower .d0 : Act η Unit).exec session).2.books =
      .of (starts + session.relaunches.toNat) (restarts + session.lost.toNat) := by
  unfold relaunches
  by_cases signal : (session.device.power.setDevice .d0).1 = some .wakeupReset
  · have reported (disposition : PowerDisposition) :
        (Session.report disposition .d0 : Act η Unit).Spares Session.books :=
      overlooksPower.spares_report disposition .d0
    have raised : session.raised.books = .of starts restarts := known
    have lost : session.lost = session.device.lifecycle.isPresent := by
      rw [Bool.eq_iff_iff, lost_iff arrived]
      exact and_iff_right signal
    have there : session.raised.device.lifecycle = session.device.lifecycle := rfl
    rw [exec_setDevice_lost signal]
    refine (view_bind (fun _ => reported _) session.raised).trans ?_
    rw [books_restart raised, there, lost]
    cases session.device.lifecycle.isPresent <;> rfl
  · have kept : session.lost = false := by
      rw [← Bool.not_eq_true, lost_iff arrived]
      exact fun lost => signal lost.1
    rw [overlooksPower.view_setDevicePower signal, known, kept]
    rfl

theorem books_ensureAwake (known : session.books = .of starts restarts)
    (arrived : session.device.lifecycle ≠ .absent) :
    ((ensureAwake : Act η Unit).exec session).2.books =
      .of (starts + (session.wakes?.any relaunches).toNat)
        (restarts + (session.wakes?.any Session.lost).toNat) := by
  have ran : (ensureAwake : Act η Unit).exec session = _ := exec_bind_ok (exec_device session)
  rw [ran]
  unfold wakes?
  cases session.device.power.device.isLow with
  | false => exact known
  | true =>
      have cancelled (handle : PowerRequestHandle) (e : DriverError) : (do
          discard (cancelRequest handle)
          throw e : Act η Unit).Spares Session.books :=
        (overlooksPower.passes_cancelRequest handle).discard.spares.seq fun _ => spares_throw e
      simp only [Bool.not_true, Bool.false_eq_true, if_false, if_true]
      rw [exec_bind, exec_requestSelfPower]
      cases session.device.pool.push .d0 with
      | error e => exact known -- nothing was asked for
      | ok item =>
          have woken : { session with device.pool := item.2 }.books = .of starts restarts := known
          exact (view_tryCatch (cancelled item.1) _).trans (books_wake woken arrived)

/-! ## Runs -/

theorem traffic_misses_books : traffic.Misses (Session.books : Session η → Books) := by
  intro change s t allowed makes
  cases makes with
  | event _ event =>
      apply push_other
      cases event with
      | notify notification =>
          cases notification with
          | deviceStarted => cases allowed
          | _ => rfl
      | _ => rfl
  | host | queues | details => rfl
  | _ => cases allowed

theorem books_open (known : session.books = .of starts restarts)
    (arrived : session.device.lifecycle ≠ .absent) :
    ((«open» : Act η Unit).exec session).2.books =
      .of (starts + ((session.asks? .open).any relaunches).toNat)
        (restarts + ((session.asks? .open).any Session.lost).toNat) := by
  have ran : («open» : Act η Unit).exec session = _ := exec_bind_ok (exec_device session)
  rw [ran]
  unfold asks?
  cases session.device.lifecycle with
  | started inService => cases inService with
    | false =>
        simp only [if_true]
        exact (view_bind (fun _ => spares_attach) session).trans (books_ensureAwake known arrived)
    | true => exact known
  | _ => exact known

theorem books_send (channel : Channel) (payload : Bytes)
    (known : session.books = .of starts restarts)
    (arrived : session.device.lifecycle ≠ .absent) :
    ((send channel payload : Act η Unit).exec session).2.books =
      .of (starts + ((session.asks? (.send channel payload)).any relaunches).toNat)
        (restarts + ((session.asks? (.send channel payload)).any Session.lost).toNat) := by
  have ran : (send channel payload : Act η Unit).exec session = _ :=
    exec_bind_ok (exec_device session)
  rw [ran]
  dsimp only
  unfold asks?
  cases session.device.lifecycle.inService with
  | false => exact known
  | true =>
      simp only [Bool.not_true, Bool.false_eq_true, if_false, if_true]
      exact (view_bind (fun _ => overlooksPower.spares_enqueue channel payload) session).trans
        (books_ensureAwake known arrived)

theorem books_perform (operation : Operation) (known : session.books = .of starts restarts)
    (arrived : session.device.lifecycle ≠ .absent) :
    (session.after operation).books =
      .of (starts + (session.launchedBy (.operation operation)).toNat)
        (restarts + (session.restartedBy (.operation operation)).toNat) := by
  have idle {act : Act η Unit} (spares : act.Spares Session.books) :
      (act.exec session).2.books = .of starts restarts := (spares session).trans known
  have keeps {act : Act η Unit} (maintains : ∀ books, act.Maintains Session.books (· = books)) :
      (act.exec session).2.books = .of starts restarts := idle (spares_of_maintains maintains)
  cases operation with
  | start => exact books_start known
  | «open» => exact books_open known arrived
  | close =>
      exact keeps fun books => overlooksPower.maintains_close (maintains_apply books _)
  | stop =>
      exact keeps fun books =>
        overlooksPower.maintains_stop (maintains_apply books) spares_dropConfiguration
  | surpriseRemove =>
      have told : (notify .deviceRemoved : Act η Unit).Spares Session.books :=
        fun session => push_other session rfl
      exact keeps fun books =>
        overlooksPower.maintains_surpriseRemove (maintains_apply books) (fun _ => rfl) told
  | shutdown =>
      exact keeps fun books =>
        overlooksPower.maintains_shutdown (maintains_apply books) spares_dropConfiguration
  | send channel payload => exact books_send channel payload known arrived
  | pollIdle now => exact idle ((overlooksPower.spares_pollIdle now).seq fun _ => spares_pure ())
  | power request =>
      cases request with
      | queryDevice level => exact idle (passes_device.spares.seq fun d => spares_orThrow _)
      | querySystem level => exact idle (spares_pure ())
      | setSystem level => exact idle (overlooksPower.spares_setSystemPower level)
      | setDevice level =>
          cases level with
          | d0 => exact books_wake known arrived
          | _ => exact idle (overlooksPower.spares_setDevicePower nofun)

/-- What an operation counts, it counts once. -/
theorem books_next (happening : Happening) (known : session.books = .of starts restarts)
    (arrived : session.device.lifecycle ≠ .absent) :
    (session.next happening).books = .of (starts + (session.launchedBy happening).toNat)
      (restarts + (session.restartedBy happening).toNat) := by
  cases happening with
  | operation operation => exact books_perform operation known arrived
  | loop name =>
      exact (traffic_misses_books.reaches (reaches_loop session name)).trans known
  | transfers busy =>
      exact (traffic_misses_books.reaches (reaches_transfers session busy)).trans known

theorem books_through (session : Session η) (happenings : List Happening)
    (known : session.books = .of starts restarts)
    (arrived : session.device.lifecycle ≠ .absent) :
    (session.through happenings).books = .of (starts + session.countAlong launchedBy happenings)
      (restarts + session.countAlong restartedBy happenings) := by
  induction happenings generalizing session starts restarts with
  | nil => exact known
  | cons happening happenings ih =>
      have counted := ih (session.next happening) (books_next happening known arrived)
        (next_arrived happening arrived)
      rw [countAlong, countAlong, ← Nat.add_assoc, ← Nat.add_assoc]
      exact counted

end Books

namespace Session

variable [Host η]

/-- All along a run from an empty store the stamp counts the starts that were announced, each of
which took the device from the present to the started state, and the other counter counts the
requests for D0 that found the device without power, whatever became of the restart. -/
theorem counters_tell_starts_and_restarts (key : AdapterKey) (host : η) (options : SessionOptions)
    (happenings : List Happening) :
    let created := create key host {} options
    let session := created.through happenings
    session.store.get .deviceStamp = .ok (StoreValue.tally session.announced) ∧
      session.announced = created.countAlong launchedBy happenings ∧
      session.store.get .ssrCounter =
        .ok (StoreValue.tally (created.countAlong restartedBy happenings)) := by
  intro created session
  have blank : created.books = .of 0 0 := rfl
  have counted := Books.books_through created happenings blank nofun
  rw [Nat.zero_add, Nat.zero_add] at counted
  obtain ⟨stamp, restarts, announced⟩ := Books.eq_of counted
  exact ⟨announced ▸ stamp, announced, restarts⟩

/-- A device that is woken after a loss of power is started twice. -/
example :
    let session := (create ⟨220, 10, 0⟩ ({} : ScriptedModem) {} {}).run
      [.start, .power (.setDevice .d3), .power (.setDevice .d0)]
    session.store.get .deviceStamp = .ok (some (.number 2)) ∧
      session.store.get .ssrCounter = .ok (some (.number 1)) := by
  decide +kernel

end Session

end ModemLink
