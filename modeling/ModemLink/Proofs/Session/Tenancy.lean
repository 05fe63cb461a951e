import ModemLink.Proofs.Session.Invariant

/-!
# Tenancy

With a client that comes or goes, the permission to suspend and the idle timer change. `Tenancy.Moves`
lists what an operation may make of the three, every operation does one of these and nothing else
touches them (`Session.next_moves`), and `Session.through_tenancy` carries a property of them along
a run.
-/

namespace ModemLink

structure Tenancy where
  lifecycle : Lifecycle
  suspendAllowed : Bool
  idleDeadline : Option Nat
  options : SessionOptions

namespace Tenancy

variable (t : Tenancy)

def attached : Tenancy :=
  { t with lifecycle := .started true, suspendAllowed := false, idleDeadline := none }

def detached (idleDeadline : Option Nat) : Tenancy :=
  { t with
    lifecycle := .started false, suspendAllowed := t.options.selectiveSuspend, idleDeadline }

def untimed : Tenancy := { t with idleDeadline := none }

inductive Attaches : Tenancy → Prop
  | refused : Attaches t
  | abandoned (free : t.lifecycle = .started false) (idleDeadline : Option Nat) :
      Attaches (t.detached idleDeadline)
  | attached (free : t.lifecycle = .started false) : Attaches t.attached

/-- What becomes of a device that is woken. One that lost power is started anew, which may fail, and
its client is attached again, which may fail too. -/
inductive Wakes : Tenancy → Prop
  | kept : Wakes t
  | lost (there : t.lifecycle.isPresent = true) : Wakes { t with lifecycle := .present }
  | restarted (there : t.lifecycle.isPresent = true) (free : t.lifecycle.inService = false) :
      Wakes { t with lifecycle := .started false }
  | reattached {u : Tenancy} (attached : t.lifecycle.inService = true)
      (attaches : ({ t with lifecycle := .started false } : Tenancy).Attaches u) : Wakes u

inductive Closes : Tenancy → Prop
  | unattended (free : t.lifecycle.inService = false) : Closes t
  | detached (attached : t.lifecycle = .started true) (idleDeadline : Option Nat) :
      Closes (t.detached idleDeadline)

inductive Moves : Operation → Tenancy → Prop
  | stays (operation : Operation) : Moves operation t
  | starts (present : t.lifecycle = .present) : Moves .start { t with lifecycle := .started false }
  | opens {u v : Tenancy} (free : t.lifecycle = .started false) (wakes : t.Wakes u)
      (attaches : u.Attaches v) : Moves .open v
  | closes {u : Tenancy} (closes : t.Closes u) : Moves .close u
  | stopRefused (unstarted : t.lifecycle.isStarted = false) : Moves .stop t.untimed
  | stops {u : Tenancy} (closes : t.Closes u) (there : u.lifecycle.isPresent = true) :
      Moves .stop { u.untimed with lifecycle := .present }
  | surpriseRemoves :
      Moves .surpriseRemove { t.untimed with lifecycle := t.lifecycle.advance .surpriseRemove }
  | shutsDown {u : Tenancy} (closes : t.Closes u) : Moves .shutdown { u with lifecycle := .removed }
  | sends {u : Tenancy} (channel : Channel) (payload : Bytes)
      (attached : t.lifecycle.inService = true) (wakes : t.Wakes u) :
      Moves (.send channel payload) u
  | polls (now : Nat) : Moves (.pollIdle now) t.untimed
  | powers {u : Tenancy} (request : PowerRequest) (wakes : t.Wakes u) : Moves (.power request) u

variable {t} {u : Tenancy} {operation : Operation}

theorem Attaches.options (attaches : t.Attaches u) : u.options = t.options := by
  cases attaches <;> rfl

theorem Wakes.options (wakes : t.Wakes u) : u.options = t.options := by
  cases wakes with
  | reattached attached attaches => exact attaches.options
  | _ => rfl

theorem Closes.options (closes : t.Closes u) : u.options = t.options := by
  cases closes <;> rfl

theorem Closes.free (closes : t.Closes u) : u.lifecycle.inService = false := by
  cases closes with
  | unattended free => exact free
  | detached => rfl

theorem Wakes.free (wakes : t.Wakes u) (free : t.lifecycle.inService = false) :
    u.lifecycle.inService = false := by
  cases wakes with
  | kept => exact free
  | lost | restarted => rfl
  | reattached attached => cases free.symm.trans attached

/-- No more is allowed than the options and an attached client allow. -/
structure Restrained (t : Tenancy) : Prop where
  selective : t.suspendAllowed = true → t.options.selectiveSuspend = true
  suspendAllowed : t.lifecycle.inService = true → t.suspendAllowed = false
  idleDeadline : t.lifecycle.inService = true → t.idleDeadline = none

namespace Restrained

theorem unattended (selective : t.suspendAllowed = true → t.options.selectiveSuspend = true)
    (free : t.lifecycle.inService = false) : t.Restrained :=
  ⟨selective, fun attached => absurd (free.symm.trans attached) Bool.false_ne_true,
    fun attached => absurd (free.symm.trans attached) Bool.false_ne_true⟩

theorem detached (t : Tenancy) (idleDeadline : Option Nat) : (t.detached idleDeadline).Restrained :=
  unattended id rfl

theorem attaches (restrained : t.Restrained) (attaches : t.Attaches u) : u.Restrained := by
  cases attaches with
  | refused => exact restrained
  | abandoned free idleDeadline => exact detached t idleDeadline
  | attached => exact ⟨nofun, fun _ => rfl, fun _ => rfl⟩

theorem wakes (restrained : t.Restrained) (wakes : t.Wakes u) : u.Restrained := by
  cases wakes with
  | kept => exact restrained
  | lost | restarted => exact unattended restrained.selective rfl
  | reattached attached attaches =>
      have vacant : ({ t with lifecycle := .started false } : Tenancy).Restrained :=
        unattended restrained.selective rfl
      exact vacant.attaches attaches

theorem closes (restrained : t.Restrained) (closes : t.Closes u) : u.Restrained := by
  cases closes with
  | unattended => exact restrained
  | detached attached idleDeadline => exact detached t idleDeadline

theorem moves (restrained : t.Restrained) (moves : t.Moves operation u) : u.Restrained := by
  have untimed : t.untimed.Restrained :=
    ⟨restrained.selective, restrained.suspendAllowed, fun _ => rfl⟩
  cases moves with
  | stays => exact restrained
  | starts => exact unattended restrained.selective rfl
  | opens free wakes attaches => exact (restrained.wakes wakes).attaches attaches
  | closes closes => exact restrained.closes closes
  | stopRefused | polls => exact untimed
  | stops closes | shutsDown closes => exact unattended (restrained.closes closes).selective rfl
  | surpriseRemoves =>
      refine unattended restrained.selective (Bool.eq_false_iff.mpr fun attached => ?_)
      have started := Lifecycle.isStarted_of_inService attached
      cases t.lifecycle.advance_surpriseRemove.symm.trans started
  | sends channel payload attached wakes | powers request wakes => exact restrained.wakes wakes

end Restrained

theorem Moves.options (moves : t.Moves operation u) : u.options = t.options := by
  cases moves with
  | opens free wakes attaches => exact attaches.options.trans wakes.options
  | closes closes | stops closes there | shutsDown closes => exact closes.options
  | sends channel payload attached wakes | powers request wakes => exact wakes.options
  | _ => rfl

/-- The tenancy of a session in which no client was ever served beyond its options. -/
structure Granted (options : SessionOptions) (t : Tenancy) : Prop where
  restrained : t.Restrained
  options : t.options = options

theorem Granted.moves {options : SessionOptions} (granted : t.Granted options)
    (moves : t.Moves operation u) : u.Granted options :=
  ⟨granted.restrained.moves moves, moves.options.trans granted.options⟩

end Tenancy

namespace Core

def tenancy (c : Core) : Tenancy where
  lifecycle := c.lifecycle
  suspendAllowed := c.power.suspendAllowed
  idleDeadline := c.power.idleDeadline
  options := c.options

variable {c d : Core} {level : DevicePower} {result : Except DriverError Unit}

/-! ## Outcomes that keep the tenancy -/

theorem tenancy_recorded (c : Core) (level : DevicePower) :
    (c.recorded level).tenancy = c.tenancy := by
  unfold recorded
  rw [PowerRecord.setDevice_frame]
  rfl

theorem tenancy_setSystem (c : Core) (level : SystemPower) :
    ({ c with power := c.power.setSystem level } : Core).tenancy = c.tenancy := by
  rw [PowerRecord.setSystem_frame]
  rfl

theorem Halts.tenancy (halts : c.Halts d) : d.tenancy = c.tenancy := by
  cases halts
  rfl

theorem Resumes.tenancy (resumes : c.Resumes result d) : d.tenancy = c.tenancy := by
  cases resumes with
  | noInterrupt => rfl
  | _ =>
      rw [listening_eq]
      rfl

theorem Quiesces.tenancy (quiesces : c.Quiesces d) : d.tenancy = c.tenancy := by
  cases quiesces with
  | already => rfl
  | stopped =>
      simp only [stop_eq]
      rfl

/-! ## Starting, attaching and detaching -/

theorem Starts.tenancy_error {e : DriverError} (starts : c.Starts (.error e) d) :
    d.tenancy = c.tenancy := by
  cases starts with
  | refused => rfl
  | undone e present halts => exact halts.tenancy

theorem Starts.tenancy_ok (starts : c.Starts (.ok ()) d) (present : c.lifecycle = .present) :
    d.tenancy = { c.tenancy with lifecycle := .started false } := by
  cases starts with
  | already started =>
      rw [present] at started
      cases started
  | begun present =>
      rw [begun_eq]
      rfl

theorem Attaches.tenancy (attaches : c.Attaches result d) : c.tenancy.Attaches d.tenancy := by
  cases attaches with
  | refused => exact .refused
  | noRead e free ok | noWrite e free ok =>
      rw [stop_eq]
      exact .abandoned free _
  | attached free => exact .attached free

theorem Closes.tenancy (closes : c.Closes d) : c.tenancy.Closes d.tenancy := by
  cases closes with
  | unattended free => exact .unattended free
  | detached attached write read =>
      simp only [stop_eq]
      exact .detached attached _

/-! ## Power -/

theorem Reinitializes.tenancy (reinitializes : c.Reinitializes result d) :
    c.tenancy.Wakes d.tenancy := by
  -- Between the stop and the start the device is present, with its tenancy kept otherwise.
  have vacated {f : Core} (halts : c.Halts f) :
      f.vacated.tenancy = { c.tenancy with lifecycle := .present } := by
    rw [← halts.tenancy]
    rfl
  have begun {f g : Core} (halts : c.Halts f) (starts : f.vacated.Starts (.ok ()) g) :
      g.tenancy = { c.tenancy with lifecycle := .started false } := by
    rw [starts.tenancy_ok rfl, vacated halts]
  cases reinitializes with
  | refused e away unstarted halts =>
      rw [halts.tenancy]
      exact .kept
  | lost e halts starts there =>
      rw [starts.tenancy_error, vacated halts]
      exact .lost there
  | unattended free halts starts there =>
      rw [begun halts starts]
      exact .restarted there free
  | attended attached halts starts attaches =>
      refine .reattached attached ?_
      rw [← begun halts starts]
      exact attaches.tenancy

theorem SetsDevice.tenancy (sets : c.SetsDevice level result d) : c.tenancy.Wakes d.tenancy := by
  rw [← tenancy_recorded c level]
  cases sets with
  | vetoed =>
      rw [tenancy_recorded]
      exact .kept
  | recorded => exact .kept
  | standby signal quiesces =>
      rw [quiesces.tenancy]
      exact .kept
  | wakeup signal resumes =>
      rw [resumes.tenancy]
      exact .kept
  | reset signal reinitializes => exact reinitializes.tenancy

theorem SetsDevice.tenancy_low (low : level.isLow = true) (sets : c.SetsDevice level result d) :
    d.tenancy = c.tenancy := by
  cases sets with
  | vetoed => rfl
  | recorded => exact tenancy_recorded c level
  | standby signal quiesces => rw [quiesces.tenancy, tenancy_recorded]
  | wakeup signal resumes => rw [resumes.tenancy, tenancy_recorded]
  | reset signal reinitializes =>
      obtain ⟨rfl, -⟩ := signal_wakeupReset signal
      cases low

theorem Wakes.tenancy (wakes : c.Wakes result d) : c.tenancy.Wakes d.tenancy := by
  cases wakes with
  | awake | exhausted => exact .kept
  | woken low sets => exact sets.tenancy

theorem Wakes.free (wakes : c.Wakes result d) (free : c.lifecycle.inService = false) :
    d.lifecycle.inService = false :=
  wakes.tenancy.free free

/-! ## Operations -/

theorem Opens.tenancy (opens : c.Opens result d) : c.tenancy.Moves .open d.tenancy := by
  cases opens with
  | refused => exact .stays _
  | asleep e free wakes => exact .opens free wakes.tenancy .refused
  | awake free wakes attaches => exact .opens free wakes.tenancy attaches.tenancy

theorem Stops.tenancy (stops : c.Stops result d) : c.tenancy.Moves .stop d.tenancy := by
  cases stops with
  | refused e closes halts away unstarted =>
      cases closes with
      | unattended free =>
          cases halts
          exact .stopRefused unstarted
      | detached => cases unstarted
  | stopped closes halts there =>
      cases halts
      exact .stops closes.tenancy there

theorem Sends.tenancy {channel : Channel} {payload : Bytes} (sends : c.Sends result d) :
    c.tenancy.Moves (.send channel payload) d.tenancy := by
  cases sends with
  | refused => exact .stays _
  | asleep e attached wakes => exact .sends _ _ attached wakes.tenancy
  | unframed e attached wakes => exact .sends _ _ attached wakes.tenancy
  | sent attached wakes => exact .sends _ _ attached wakes.tenancy

theorem PollsIdle.tenancy {now : Nat} {result : Except DriverError Bool}
    (polls : c.PollsIdle result d) : c.tenancy.Moves (.pollIdle now) d.tenancy := by
  have suspends {result : Except DriverError Unit} {f : Core}
      (sets : (c.untimed.idling true).SetsDevice .d2 result f) :
      f.tenancy = c.tenancy.untimed :=
    sets.tenancy_low rfl
  cases polls with
  | kept => exact .stays _
  | exhausted => exact .polls now
  | suspended high sets =>
      rw [suspends sets]
      exact .polls now
  | @failed e f high sets =>
      change c.tenancy.Moves _ f.tenancy
      rw [suspends sets]
      exact .polls now

theorem HandlesPower.tenancy {request : PowerRequest} (handles : c.HandlesPower request result d) :
    c.tenancy.Moves (.power request) d.tenancy := by
  cases handles with
  | queryDevice | querySystem => exact .stays _
  | setSystem level =>
      rw [tenancy_setSystem]
      exact .stays _
  | setDevice sets => exact .powers _ sets.tenancy

theorem Performs.tenancy {operation : Operation} (performs : c.Performs operation d) :
    c.tenancy.Moves operation d.tenancy := by
  cases operation with
  | start =>
      obtain ⟨e | _, starts⟩ := performs
      · rw [starts.tenancy_error]
        exact .stays _
      · cases starts with
        | already => exact .stays _
        | begun present =>
            rw [Starts.tenancy_ok (.begun present) present]
            exact .starts present
  | «open» =>
      obtain ⟨result, opens⟩ := performs
      exact opens.tenancy
  | close => exact .closes (Closes.tenancy performs)
  | stop =>
      obtain ⟨result, stops⟩ := performs
      exact stops.tenancy
  | surpriseRemove =>
      obtain ⟨halts⟩ := performs
      cases halts
      exact .surpriseRemoves
  | shutdown =>
      obtain ⟨closes, halts⟩ := performs
      cases halts
      exact .shutsDown closes.tenancy
  | send channel payload =>
      obtain ⟨result, sends⟩ := performs
      exact sends.tenancy
  | pollIdle now =>
      obtain ⟨result, polls⟩ := performs
      exact polls.tenancy
  | power request =>
      obtain ⟨result, handles⟩ := performs
      exact handles.tenancy

end Core

namespace Session

variable {η : Type}

def tenancy (session : Session η) : Tenancy where
  lifecycle := session.device.lifecycle
  suspendAllowed := session.device.power.suspendAllowed
  idleDeadline := session.device.power.idleDeadline
  options := session.options

variable [Host η]

/-! ## Runs -/

/-- Between two operations the tenancy stays as it is. -/
theorem next_moves (session : Session η) (happening : Happening) :
    (session.next happening).tenancy = session.tenancy ∨
      ∃ operation, happening = .operation operation ∧
        session.tenancy.Moves operation (session.next happening).tenancy := by
  obtain same | ⟨operation, rfl, performs⟩ := session.next_core happening
  · exact .inl (congrArg Core.tenancy same)
  · exact .inr ⟨operation, rfl, performs.tenancy⟩

/-- No operation of the run makes a move of this kind. -/
def shuns (move : Tenancy → Operation → Tenancy → Bool) (session : Session η)
    (happenings : List Happening) : Bool :=
  session.along (fun session happening => happening.evades fun operation =>
    move session.tenancy operation (session.after operation).tenancy) happenings

theorem shuns_never (session : Session η) (happenings : List Happening) :
    session.shuns (fun _ _ _ => false) happenings = true :=
  along_evades_never session happenings

theorem through_tenancy {Invariant : Tenancy → Prop}
    {move : Tenancy → Operation → Tenancy → Bool}
    (step : ∀ {t u : Tenancy} {operation : Operation}, Invariant t → t.Moves operation u →
      move t operation u = false → Invariant u)
    (session : Session η) (happenings : List Happening) (initially : Invariant session.tenancy)
    (shuns : session.shuns move happenings = true) :
    Invariant (session.through happenings).tenancy := by
  have next (session : Session η) (happening : Happening) (holds : Invariant session.tenancy)
      (evades : (happening.evades fun operation =>
        move session.tenancy operation (session.after operation).tenancy) = true) :
      Invariant (session.next happening).tenancy := by
    obtain same | ⟨operation, rfl, moves⟩ := session.next_moves happening
    · rwa [same]
    · exact step holds moves ((Bool.not_eq_true' _).mp evades)
  exact through_invariant next session happenings initially shuns

theorem through_granted (key : AdapterKey) (host : η) (store : Store) (options : SessionOptions)
    (happenings : List Happening) :
    ((create key host store options).through happenings).tenancy.Granted options := by
  have first : (create key host store options).tenancy.Granted options :=
    ⟨.unattended id rfl, rfl⟩
  exact through_tenancy (fun granted moves _ => granted.moves moves) _ happenings first
    (shuns_never _ happenings)

end Session

end ModemLink
