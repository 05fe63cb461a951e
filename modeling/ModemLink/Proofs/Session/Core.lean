import Mathlib.Logic.Function.Basic
import ModemLink.Proofs.Session.View
import ModemLink.Session.Operations

/-!
# The core of a session

What an operation does next rests on little of a session: the lifecycle, the power record and which
loops are live (`Session.core`). `act.Leads c post` says what holds after `act` from any session
with core `c`, whatever the host answers; the rules below follow the actions, so that a function is
run on cores alone. An action that leaves the core as it is, is `Quiet`, and `Silent` if it cannot
fail.
-/

namespace ModemLink

namespace Event

def isFailedStart : Event → Bool
  | startLoop _ ok => !ok
  | _ => false

def isFailedStop : Event → Bool
  | stopLoop _ _ _ ok => !ok
  | _ => false

end Event

/-- The record without its wait-wake flag, read by no decision but the next wait-wake request. -/
def PowerRecord.disarmed (p : PowerRecord) : PowerRecord := { p with waitWakeArmed := false }

structure Core where
  mux : MuxConfig
  options : SessionOptions
  now : Nat
  lifecycle : Lifecycle
  power : PowerRecord
  live : LoopName → Bool
  /-- A loop could not be started at some time. -/
  startFailed : Bool
  /-- A loop could not be stopped at some time. -/
  stopFailed : Bool

variable {η α β : Type}

def Session.core (session : Session η) : Core where
  mux := session.device.mux
  options := session.options
  now := session.now
  lifecycle := session.device.lifecycle
  power := session.device.power.disarmed
  live name := (session.loops.get name).live
  startFailed := session.trace.any Event.isFailedStart
  stopFailed := session.trace.any Event.isFailedStop

/-- No loop failed to start or to stop so far. -/
def Session.Clean (session : Session η) : Prop :=
  session.trace.any Event.isFailedStart = false ∧ session.trace.any Event.isFailedStop = false

instance (session : Session η) : Decidable session.Clean := inferInstanceAs (Decidable (_ ∧ _))

/-- What a core tells of the device record. -/
structure Device.Shows (d : Device) (c : Core) : Prop where
  mux : d.mux = c.mux
  lifecycle : d.lifecycle = c.lifecycle
  power : d.power.disarmed = c.power

theorem Device.Shows.level {d : Device} {c : Core} (shows : d.Shows c) :
    d.power.device = c.power.device := by
  rw [← shows.power, PowerRecord.disarmed]

theorem Device.Shows.lowPowerMode {d : Device} {c : Core} (shows : d.Shows c) :
    d.power.lowPowerMode = c.power.lowPowerMode := by
  rw [← shows.power, PowerRecord.disarmed]

namespace Core

def start (c : Core) (name : LoopName) : Core :=
  { c with live := Function.update c.live name true }

def failStart (c : Core) : Core := { c with startFailed := true }

/-- A request to stop a loop, which may fail. -/
def stop (c : Core) (name : LoopName) (ok : Bool) : Core :=
  if ok then { c with live := Function.update c.live name false } else { c with stopFailed := true }

/-- The core after an event of the trace. -/
def note (c : Core) (event : Event) : Core :=
  { c with
    startFailed := c.startFailed || event.isFailedStart
    stopFailed := c.stopFailed || event.isFailedStop }

variable {name : LoopName} {tag : StopTag} {wait : Bool}

theorem stop_eq (c : Core) (name : LoopName) (ok : Bool) :
    c.stop name ok =
      { c with
        live := if ok then Function.update c.live name false else c.live
        stopFailed := c.stopFailed || !ok } := by
  cases ok <;> simp [stop]

@[simp] theorem note_startLoop (c : Core) (ok : Bool) :
    c.note (.startLoop name ok) = if ok then c else c.failStart := by
  cases ok <;> simp [note, failStart, Event.isFailedStart, Event.isFailedStop]

@[simp] theorem note_stopLoop (c : Core) (ok : Bool) :
    c.note (.stopLoop name tag wait ok) = if ok then c else c.stop name false := by
  cases ok <;> simp [note, stop, Event.isFailedStart, Event.isFailedStop]

end Core

theorem Session.core_setLoop (session : Session η) (name : LoopName) (loop : ServiceLoop) :
    ({ session with loops := session.loops.set name loop } : Session η).core =
      { session.core with live := Function.update session.core.live name loop.live } := by
  have live : (fun other => ((session.loops.set name loop).get other).live) =
      Function.update session.core.live name loop.live := by
    funext other
    by_cases same : other = name
    · simp [same]
    · simp [same, Session.core]
  simp only [Session.core, live]

/-- A loop that is in the wanted state already is left as it is. -/
theorem Core.update_live (c : Core) (name : LoopName) :
    { c with live := Function.update c.live name (c.live name) } = c := by
  rw [Function.update_eq_self]

namespace Act

/-- From core `c`, the action ends with a result and a core that satisfy `post`. -/
def Leads (act : Act η α) (c : Core) (post : Except DriverError α → Core → Prop) : Prop :=
  ∀ session : Session η, session.core = c → post (act.exec session).1 (act.exec session).2.core

/-- What must hold after the first of two actions. -/
abbrev Then (next : α → Act η β) (post : Except DriverError β → Core → Prop) :
    Except DriverError α → Core → Prop
  | .ok a, c => (next a).Leads c post
  | .error e, c => post (.error e) c

/-- What must hold before a handler. -/
abbrev Else (handler : DriverError → Act η α) (post : Except DriverError α → Core → Prop) :
    Except DriverError α → Core → Prop
  | .ok a, c => post (.ok a) c
  | .error e, c => (handler e).Leads c post

def Quiet (act : Act η α) : Prop := ∀ session, (act.exec session).2.core = session.core

def Silent (act : Act η α) : Prop :=
  ∀ session, ∃ a after, act.exec session = (.ok a, after) ∧ after.core = session.core

variable {act : Act η α} {next : α → Act η β} {c : Core}
  {post : Except DriverError α → Core → Prop} {later : Except DriverError β → Core → Prop}

theorem Leads.takes (leads : act.Leads c post) : act.Takes Session.core c post := leads

/-! ## Sequencing -/

theorem leads_pure {a : α} (holds : post (.ok a) c) : (pure a : Act η α).Leads c post :=
  takes_pure holds

theorem leads_throw {e : DriverError} (holds : post (.error e) c) :
    (throw e : Act η α).Leads c post :=
  takes_throw holds

theorem Leads.imp {weaker : Except DriverError α → Core → Prop} (leads : act.Leads c post)
    (implies : ∀ result core, post result core → weaker result core) : act.Leads c weaker :=
  Takes.imp leads implies

theorem Leads.bind (first : act.Leads c (Then next later)) : (act >>= next).Leads c later :=
  Takes.andThen first (fun _ _ => id) fun _ _ => id

theorem Leads.tryCatch {handler : DriverError → Act η α} (tried : act.Leads c (Else handler post)) :
    (tryCatch act handler).Leads c post :=
  Takes.tryCatch tried (fun _ _ => id) fun _ _ => id

theorem Leads.discard {post : Except DriverError Unit → Core → Prop}
    (leads : act.Leads c fun result core => match result with
      | .ok _ => post (.ok ()) core
      | .error e => post (.error e) core) : (discard act).Leads c post :=
  leads.takes.discard (fun _ _ => id) fun _ _ => id

theorem Leads.attempt {post : Except DriverError Unit → Core → Prop}
    (leads : act.Leads c fun _ core => post (.ok ()) core) : (attempt act).Leads c post :=
  leads.takes.attempt fun _ _ => id

/-! ## Reading -/

theorem leads_get {next : Session η → Act η β}
    (rest : ∀ session : Session η, session.core = c → (next session).Leads c later) :
    (get >>= next).Leads c later :=
  takes_get rest

theorem leads_device {next : Device → Act η β}
    (rest : ∀ d : Device, d.Shows c → (next d).Leads c later) :
    (device >>= next).Leads c later := by
  refine takes_device fun session known => ?_
  subst known
  exact rest session.device ⟨rfl, rfl, rfl⟩

/-! ## Actions that leave the core -/

theorem Silent.quiet (silent : act.Silent) : act.Quiet := Passes.spares silent

theorem Quiet.leads (quiet : act.Quiet) (holds : ∀ result, post result c) : act.Leads c post :=
  Spares.takes quiet holds

theorem Silent.leads (silent : act.Silent) (holds : ∀ a, post (.ok a) c) : act.Leads c post :=
  Passes.takes silent holds

theorem Quiet.bind (quiet : act.Quiet) (rest : ∀ a, (next a).Leads c later)
    (failed : ∀ e, later (.error e) c) : (act >>= next).Leads c later :=
  Spares.bind quiet rest failed

theorem Silent.bind (silent : act.Silent) (rest : ∀ a, (next a).Leads c later) :
    (act >>= next).Leads c later :=
  Passes.bind silent rest

theorem Quiet.seq (quiet : act.Quiet) (rest : ∀ a, (next a).Quiet) : (act >>= next).Quiet :=
  Spares.seq quiet rest

theorem Quiet.tryCatch {handler : DriverError → Act η α} (quiet : act.Quiet)
    (handled : ∀ e, (handler e).Quiet) : (tryCatch act handler).Quiet :=
  Spares.tryCatch quiet handled

theorem silent_pure (a : α) : (pure a : Act η α).Silent := passes_pure a

theorem silent_device : (device : Act η Device).Silent := passes_device

theorem silent_get : (get : Act η (Session η)).Silent := passes_get

theorem Silent.seq (silent : act.Silent) (rest : ∀ a, (next a).Silent) :
    (act >>= next).Silent :=
  Passes.seq silent rest

theorem Silent.discard (silent : act.Silent) : (discard act).Silent := Passes.discard silent

theorem Quiet.attempt (quiet : act.Quiet) : (attempt act).Silent := Spares.attempt quiet

/-! ## Primitive actions -/

theorem leads_modify {f : Session η → Session η} {post : Except DriverError Unit → Core → Prop}
    (holds : ∀ session : Session η, session.core = c → post (.ok ()) (f session).core) :
    (modify f : Act η Unit).Leads c post :=
  holds

theorem leads_emit {event : Event} {post : Except DriverError Unit → Core → Prop}
    (holds : post (.ok ()) (c.note event)) : (emit event : Act η Unit).Leads c post := by
  rintro session rfl
  simpa [Session.core, Core.note] using holds

theorem silent_emit {event : Event} (started : event.isFailedStart = false)
    (stopped : event.isFailedStop = false) : (emit event : Act η Unit).Silent := by
  intro session
  refine ⟨(), _, exec_emit event session, ?_⟩
  simp [Session.core, started, stopped]

theorem silent_notify (notification : Notification) : (notify notification : Act η Unit).Silent :=
  silent_emit rfl rfl

theorem silent_onHost (f : η → α × η) : (onHost f).Silent :=
  fun session => ⟨_, _, exec_onHost f session, rfl⟩

/-- A change of the record that the core does not tell of. -/
theorem silent_onDevice {f : Device → Device}
    (same : ∀ d, (f d).mux = d.mux ∧ (f d).lifecycle = d.lifecycle ∧
      (f d).power.disarmed = d.power.disarmed) :
    (onDevice f : Act η Unit).Silent := by
  intro session
  obtain ⟨mux, lifecycle, power⟩ := same session.device
  refine ⟨(), _, exec_onDevice f session, ?_⟩
  simp [Session.core, mux, lifecycle, power]

theorem silent_onQueues (f : Queues → Queues) : (onQueues f : Act η Unit).Silent :=
  silent_onDevice fun _ => ⟨rfl, rfl, rfl⟩

theorem silent_onStats (f : TransferStats → TransferStats) : (onStats f : Act η Unit).Silent :=
  silent_onDevice fun _ => ⟨rfl, rfl, rfl⟩

theorem leads_onPower {f : PowerRecord → PowerRecord} {post : Except DriverError Unit → Core → Prop}
    (disarmed : ∀ p, (f p).disarmed = f p.disarmed)
    (holds : post (.ok ()) { c with power := f c.power }) :
    (onPower f : Act η Unit).Leads c post := by
  rintro session rfl
  have same : ((onPower f : Act η Unit).exec session).2.core =
      { session.core with power := f session.core.power } := by
    simp [onPower, Session.core, disarmed]
  rw [same]
  exact holds

theorem leads_apply {event : LifecycleEvent} {post : Except DriverError Unit → Core → Prop}
    (moved : ∀ lifecycle, c.lifecycle.next event = .ok lifecycle →
      post (.ok ()) { c with lifecycle })
    (refused : ∀ e, c.lifecycle.next event = .error e → post (.error e) c) :
    (apply event : Act η Unit).Leads c post := by
  unfold apply
  refine leads_device fun d shows => ?_
  rw [shows.lifecycle]
  cases outcome : c.lifecycle.next event with
  | error e => exact leads_throw (refused e outcome)
  | ok lifecycle =>
      rintro session rfl
      exact moved lifecycle outcome

section Host

variable [Host η] {post : Except DriverError Unit → Core → Prop}

theorem leads_startLoop {name : LoopName} (started : post (.ok ()) (c.start name))
    (failed : ∀ e, post (.error e) c.failStart) : (startLoop name : Act η Unit).Leads c post := by
  unfold startLoop
  refine (silent_onHost _).bind fun result => ?_
  cases result with
  | error e =>
      refine Leads.bind (leads_emit ?_)
      rw [Core.note_startLoop]
      exact leads_throw (failed e)
  | ok _ =>
      refine Leads.bind (leads_emit ?_)
      rw [Core.note_startLoop]
      refine leads_modify ?_
      rintro session rfl
      -- A loop that is live already is left alone, which makes no difference to the core.
      cases live : (session.loops.get name).live with
      | true =>
          have same := session.core.update_live name
          rw [show session.core.live name = true from live] at same
          simpa [live, Core.start, same] using started
      | false => simpa [live, Session.core_setLoop, Core.start] using started

theorem leads_attempt_stopLoop {name : LoopName} {tag : StopTag} {wait : Bool}
    (stopped : ∀ ok, post (.ok ()) (c.stop name ok)) :
    (attempt (stopLoop name tag wait) : Act η Unit).Leads c post := by
  refine Leads.attempt ?_
  unfold stopLoop
  refine (silent_onHost _).bind fun result => ?_
  cases result with
  | error e =>
      refine Leads.bind (leads_emit ?_)
      rw [Core.note_stopLoop]
      exact leads_throw (stopped false)
  | ok _ =>
      refine Leads.bind (leads_emit ?_)
      rw [Core.note_stopLoop]
      refine leads_modify ?_
      rintro session rfl
      have reached := stopped true
      cases live : (session.loops.get name).live with
      | true => simpa [live, Session.core_setLoop, Core.stop] using reached
      | false =>
          have same := session.core.update_live name
          rw [show session.core.live name = false from live] at same
          simpa [live, Core.stop, same] using reached

end Host

end Act

end ModemLink
