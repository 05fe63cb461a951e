import ModemLink.Proofs.Session.LoopLifecycle
import ModemLink.Proofs.Session.PowerLoss
import ModemLink.Proofs.Session.Rollback
import ModemLink.Proofs.Session.Scope
import ModemLink.Proofs.Session.Tenancy
import ModemLink.Scripted

/-!
# Opening

A client is attached as a whole or not at all. Whatever stops an open on its way, be it the waking,
the pipes or the loops, the device is left without a client and DTR has not been raised; one that
succeeds ends with the request that raises it (`Session.open_is_all_or_nothing`).
-/

namespace ModemLink

open Act Footprint

variable {η : Type}

def Event.raisesDtr : Event → Bool
  | .controlOut request _ => request.raisesDtr
  | _ => false

/-! ## The core of an open -/

namespace Core

variable {c d : Core} {e : DriverError}

theorem Opens.free (opens : c.Opens (.error e) d) (free : c.lifecycle.inService = false) :
    d.lifecycle.inService = false := by
  cases opens with
  | refused => exact free
  | asleep _ _ wakes => exact wakes.free free
  | awake _ wakes attaches =>
      cases attaches with
      | refused => exact wakes.free free
      | noRead | noWrite =>
          rw [stop_eq]
          rfl

/-- Attached, served and at full power. -/
structure Served (c : Core) : Prop where
  lifecycle : c.lifecycle = .started true
  read : c.live .read = true
  write : c.live .write = true
  high : c.power.device.isLow = false
  suspendAllowed : c.power.suspendAllowed = false
  idleDeadline : c.power.idleDeadline = none

theorem Opens.served (opens : c.Opens (.ok ()) d) : d.Served := by
  cases opens with
  | awake _ wakes attaches =>
      have high := wakes.high
      rw [← attaches.device] at high
      cases attaches with
      | attached => exact ⟨rfl, rfl, rfl, high, rfl, rfl⟩

end Core

namespace Session

/-! ## Opens that fail -/

theorem not_raisesDtr_of_requesting [Host η] {event : Event}
    (allowed : (requesting η).touches (.event event)) : event.raisesDtr = false := by
  cases event with
  | controlOut request result =>
      have lowers : (!request.raisesDtr) = true := allowed
      rwa [Bool.not_eq_true'] at lowers
  | _ => rfl

variable [Host η] {session after : Session η} {e : DriverError}

theorem withinAt_reinit_unattended (free : session.device.lifecycle.inService = false) :
    (reinit : Act η Unit).WithinAt (requesting η) session := by
  refine withinAt_device ?_
  rw [free]
  exact ((within_stopAll _ _ _ _).seq fun _ => within_restart (within_pure ())).here

theorem withinAt_ensureAwake_unattended (free : session.device.lifecycle.inService = false) :
    (ensureAwake : Act η Unit).WithinAt (requesting η) session :=
  withinAt_ensureAwake fun _ same => withinAt_reinit_unattended (same ▸ free)

theorem withinAt_opened (free : session.device.lifecycle.inService = false) :
    (apply .opened : Act η Unit).WithinAt (requesting η) session := by
  refine withinAt_device ?_
  cases moved : session.device.lifecycle.next .opened with
  | ok lifecycle => exact ⟨.launch (.lifecycle session moved) trivial, nofun⟩
  | error e =>
      refine Within.here (within_throw (tolerated η (Lifecycle.isReserved_of_next moved fun _ => ?_)))
      intro attached
      rw [attached] at free
      cases free

/-! ## The way to an open -/

/-- All that comes before DTR is pulsed. -/
def prepare : Act η Unit := do
  ensureAwake
  resetData
  apply .opened
  serve

theorem exec_open_free (free : session.device.lifecycle = .started false) :
    «open».exec session = (prepare >>= fun _ => pulse).exec session := by
  unfold «open» prepare
  rw [exec_bind_ok (exec_device session), free, attach_eq]
  simp only [bind_assoc]

theorem withinAt_prepare (free : session.device.lifecycle.inService = false) :
    (prepare : Act η Unit).WithinAt (requesting η) session := by
  refine (withinAt_ensureAwake_unattended free).seq fun _ awake ran => ?_
  have wakes : session.core.Wakes (.ok ()) awake.core := by
    have led := leads_ensureAwake session rfl
    rwa [ran] at led
  have quiet : (resetData : Act η Unit).Quiet := by
    refine passes_device.spares.seq fun d => ?_
    split
    · exact (core_overlooks.spares_resetRole _).seq fun _ => core_overlooks.spares_resetRole _
    · exact spares_pure _
  refine within_resetData.seqAt quiet fun _ reset same => ?_
  have unattended : reset.device.lifecycle.inService = false :=
    (congrArg (fun c : Core => c.lifecycle.inService) same).trans (wakes.free free)
  exact (withinAt_opened unattended).seq fun _ _ _ => within_serve.here

/-! ## What a new client finds -/

/-- The statistics, and whether sending is paused. -/
def meter (session : Session η) : TransferStats × Bool :=
  (session.device.stats, session.device.txPaused)

theorem takes_serve (v : TransferStats × Bool) :
    (serve : Act η Unit).Takes meter v fun result w => result = .ok () → w = ({}, false) := by
  have powered (f : PowerRecord → PowerRecord) : (onPower f : Act η Unit).Passes meter :=
    fun session => ⟨(), _, rfl, rfl⟩
  have idle : (setInterfaceIdle false : Act η Unit).Passes meter := by
    refine passes_device.seq fun d => ?_
    split
    · exact fun session => ⟨(), _, rfl, rfl⟩
    · exact passes_pure _
  have zeroed : (onStats fun _ => {} : Act η Unit).Brings meter v ({}, v.2) := by
    rintro session rfl
    exact ⟨(), _, rfl, rfl⟩
  have resumed : (onDevice fun d => { d with txPaused := false } : Act η Unit).Brings meter
      ({}, v.2) ({}, false) := by
    rintro session known
    exact ⟨(), _, rfl, congrArg (·.1, false) known⟩
  have started (name : LoopName) : (startLoop name : Act η Unit).Spares meter := by
    refine Spares.seq (fun _ => rfl) fun result => Spares.seq (fun _ => rfl) fun _ => ?_
    cases result with
    | error e => exact spares_throw e
    | ok _ =>
        intro session
        rw [exec_modify]
        dsimp only
        split <;> rfl
  refine (powered _).bind fun _ => (powered _).bind fun _ => idle.bind fun _ => zeroed.bind fun _ =>
    resumed.bind fun _ => ?_
  have loops : (startDataLoops : Act η Unit).Takes meter ({}, false) fun _ w => w = ({}, false) :=
    ((started _).seq fun _ => started _).takes fun _ => rfl
  refine loops.tryCatch (fun _ _ same _ => same) fun e w _ => ?_
  have abandoned : (abandonOpen : Act η Unit).Takes meter w fun _ _ => True :=
    fun _ _ => trivial
  exact abandoned.andThen (fun _ _ _ => takes_throw nofun) fun _ _ _ => nofun

theorem prepare_meter {ready : Session η} (prepared : prepare.exec session = (.ok (), ready)) :
    ready.meter = ({}, false) := by
  obtain ⟨_, awake, -, prepared⟩ := exec_bind_succeeded prepared
  obtain ⟨_, reset, -, prepared⟩ := exec_bind_succeeded prepared
  obtain ⟨_, engaged, -, served⟩ := exec_bind_succeeded prepared
  have fresh := takes_serve engaged.meter engaged rfl
  rw [served] at fresh
  exact fresh rfl

theorem passes_pulse :
    (pulse : Act η Unit).Passes fun s => (s.device.configuration, s.meter) := by
  have lined (dtr rts : Bool) : (setLineState dtr rts : Act η Unit).Passes
      fun s => (s.device.configuration, s.meter) := by
    refine passes_device.seq fun d => ?_
    split
    · exact passes_pure _
    · exact fun session => ⟨(), _, rfl, rfl⟩
  exact (lined _ _).seq fun _ => (lined _ _).seq fun _ session => ⟨(), _, rfl, rfl⟩

theorem exec_setLineState {config : UsbConfiguration}
    (configured : session.device.configuration = some config) (dtr rts : Bool) :
    ∃ result after, (setLineState dtr rts).exec session = (.ok (), after) ∧
      after.device.configuration = some config ∧
      after.trace =
        session.trace.push (.controlOut (.lineState config.controlInterface dtr rts) result) := by
  unfold setLineState
  rw [exec_bind_ok (exec_device session), configured]
  exact ⟨_, _, rfl, configured, rfl⟩

/-- DTR is lowered and raised again, and that is all that the host is told. -/
theorem trace_pulse {config : UsbConfiguration}
    (configured : session.device.configuration = some config)
    (pulsed : pulse.exec session = (.ok (), after)) :
    ∃ lowered raised, after.trace.toList = session.trace.toList ++
      [.controlOut (.lineState config.controlInterface false false) lowered,
        .controlOut (.lineState config.controlInterface true true) raised] := by
  obtain ⟨lowered, low, lowers, configured, trace⟩ := exec_setLineState configured false false
  obtain ⟨raised, high, raises, -, trace'⟩ := exec_setLineState configured true true
  unfold pulse at pulsed
  rw [exec_bind_ok lowers, exec_bind_ok raises] at pulsed
  cases pulsed
  refine ⟨lowered, raised, ?_⟩
  simp only [trace', trace, Array.toList_push, List.append_assoc, List.singleton_append]

/-! ## Ends -/

/-- What an open leaves behind that failed. A loop that could not be stopped may still be live. -/
structure Unopened (before after : Session η) : Prop where
  free : after.device.lifecycle.inService = false
  loops : after.trace.any Event.isFailedStop = false →
    (after.loops.get .read).live = false ∧ (after.loops.get .write).live = false
  lowered : ∃ events, after.trace.toList = before.trace.toList ++ events ∧
    ∀ event ∈ events, event.raisesDtr = false

/-- What a client finds once it is attached. The request that raises DTR is the last call of all. -/
structure Opened (before after : Session η) : Prop where
  attached : after.device.lifecycle = .started true
  read : (after.loops.get .read).live = true
  write : (after.loops.get .write).live = true
  high : after.device.power.device.isLow = false
  suspendAllowed : after.device.power.suspendAllowed = false
  idleDeadline : after.device.power.idleDeadline = none
  txPaused : after.device.txPaused = false
  stats : after.device.stats = {}
  raised : ∃ config events result, after.device.configuration = some config ∧
    after.trace.toList = before.trace.toList ++ events ++
      [.controlOut (.lineState config.controlInterface true true) result]

theorem exec_open_attached (attached : session.device.lifecycle = .started true) :
    «open».exec session = (.error .deviceBusy, session) := by
  unfold «open»
  rw [exec_bind_ok (exec_device session), attached]
  rfl

theorem exec_open_unstarted (unstarted : session.device.lifecycle.isStarted = false) :
    «open».exec session = (.error .deletePending, session) := by
  unfold «open»
  rw [exec_bind_ok (exec_device session)]
  cases state : session.device.lifecycle with
  | started inService =>
      rw [state] at unstarted
      cases unstarted
  | _ => rfl

theorem open_failed (free : session.device.lifecycle.inService = false)
    (failed : «open».exec session = (.error e, after)) :
    (requesting η).Reaches session after ∧ (requesting η).fails e := by
  cases started : session.device.lifecycle.isStarted with
  | false =>
      cases (exec_open_unstarted started).symm.trans failed
      exact ⟨.refl session, tolerated η rfl⟩
  | true =>
      rw [exec_open_free (Lifecycle.eq_started_false started free)] at failed
      obtain prepared | ⟨_, ready, -, pulsed⟩ := exec_bind_failed failed
      · have within := withinAt_prepare free
        exact ⟨within.reaches prepared, within.fails prepared⟩
      · obtain ⟨_, _, passed, -⟩ := passes_pulse ready
        cases passed.symm.trans pulsed

theorem open_unopened (follows : session.core.Follows)
    (free : session.device.lifecycle.inService = false)
    (failed : «open».exec session = (.error e, after)) : session.Unopened after := by
  have opens : session.core.Opens (.error e) after.core := by
    have led := leads_open session rfl
    rwa [failed] at led
  have unattended : after.device.lifecycle.inService = false := opens.free free
  have follows' : after.core.Follows :=
    Core.Follows.stable.opens follows opens
  obtain ⟨events, grown, allowed⟩ := (open_failed free failed).1.appends
  exact ⟨unattended, fun stops => follows'.data stops unattended, events, grown,
    fun event member => not_raisesDtr_of_requesting (allowed event member)⟩

theorem open_opened (consistent : session.possession.Consistent true)
    (opened : «open».exec session = (.ok (), after)) : session.Opened after := by
  have opens : session.core.Opens (.ok ()) after.core := by
    have led := leads_open session rfl
    rwa [opened] at led
  have state : session.device.lifecycle = .started false := by
    cases opens with
    | awake free => exact free
  have served := opens.served
  have consistent' : after.possession.Consistent true := by
    have kept := Possession.maintains_perform .open (fun _ => rfl) _ consistent session rfl
    rwa [show Operation.perform .open = «open» from rfl, opened] at kept
  obtain ⟨config, configured⟩ : ∃ config, after.device.configuration = some config := by
    refine Option.isSome_iff_exists.mp (consistent'.configured.trans ?_)
    exact Lifecycle.isStarted_of_inService (Lifecycle.inService_iff.mpr served.lifecycle)
  -- Only the pulse of DTR comes after all that may fail, and it changes nothing else.
  rw [exec_open_free state] at opened
  obtain ⟨_, ready, prepared, pulsed⟩ := exec_bind_succeeded opened
  obtain ⟨_, _, passed, same⟩ := passes_pulse ready
  cases passed.symm.trans pulsed
  obtain ⟨configuration, meter⟩ := Prod.mk.inj same
  obtain ⟨stats, txPaused⟩ := Prod.mk.inj (meter.trans (prepare_meter prepared))
  have free : session.device.lifecycle.inService = false := by
    rw [state]
    rfl
  obtain ⟨events, grown, -⟩ := ((withinAt_prepare free).reaches prepared).appends
  obtain ⟨lowered, raised, trace⟩ := trace_pulse (configuration.symm.trans configured) pulsed
  exact
    { attached := served.lifecycle
      read := served.read
      write := served.write
      high := served.high
      suspendAllowed := served.suspendAllowed
      idleDeadline := served.idleDeadline
      txPaused
      stats
      raised := ⟨config, events ++ [.controlOut (.lineState config.controlInterface false false)
        lowered], raised, configured, by rw [trace, grown]; simp⟩ }

/-- In any session and whatever the host answers, a client is refused as long as there is another,
and this changes nothing. Without one, an open that fails leaves the device without a client, its
data loops stopped, and has not raised DTR on the way; one that succeeds has attached the client and
raises DTR last of all. -/
theorem open_is_all_or_nothing (key : AdapterKey) (host : η) (store : Store)
    (options : SessionOptions) (happenings : List Happening) {session : Session η}
    (reached : (create key host store options).through happenings = session)
    {result : Except DriverError Unit} {after : Session η}
    (ended : «open».exec session = (result, after)) :
    (session.device.lifecycle = .started true → result = .error .deviceBusy ∧ after = session) ∧
      (result = .error .deviceBusy →
        session.device.lifecycle = .started true ∨ Host.Misreports η .deviceBusy) ∧
      (∀ e, result = .error e → session.device.lifecycle ≠ .started true →
        session.Unopened after) ∧
      (result = .ok () → session.Opened after) := by
  have follows : session.core.Follows :=
    reached ▸ through_stable Core.Follows.stable _ happenings
      (create_follows key host store options) (avoids_never _ happenings)
  have consistent : session.possession.Consistent true :=
    reached ▸ through_consistent _ happenings true (fun _ => rfl) (create_consistent _ _ _ _ true)
  have unattended (vacant : session.device.lifecycle ≠ .started true) :
      session.device.lifecycle.inService = false :=
    Bool.eq_false_iff.mpr (vacant ∘ Lifecycle.inService_iff.mp)
  refine ⟨fun attached => ?_, ?_, ?_, ?_⟩
  · obtain ⟨refused, same⟩ := Prod.mk.inj ((exec_open_attached attached).symm.trans ended)
    exact ⟨refused.symm, same.symm⟩
  · rintro rfl
    by_cases attached : session.device.lifecycle = .started true
    · exact .inl attached
    · obtain exhausted | misreported := (open_failed (unattended attached) ended).2
      · cases exhausted
      · exact .inr (misreported rfl)
  · rintro e rfl vacant
    exact open_unopened follows (unattended vacant) ended
  · rintro rfl
    exact open_opened consistent ended

/-- A modem that lost its power with the system asleep is opened: it is started anew, and then its
write loop starts or does not. -/
theorem open_is_all_or_nothing_after_sleep :
    let session (fails : List LoopName) := (create ⟨220, 30, 0⟩
      ({ startFails := fails } : ScriptedModem) {} {}).through
        [.operation .start, .operation (.power (.setSystem .sleeping3)),
          .operation (.power (.setDevice .d3)), .operation (.power (.setSystem .working))]
    (∃ after, «open».exec (session []) = (.ok (), after) ∧ (session []).Opened after) ∧
      ∃ e after, «open».exec (session [.write]) = (.error e, after) ∧
        (session [.write]).Unopened after := by
  intro session
  have succeeds : («open».exec (session [])).1 = .ok () := by decide +kernel
  have fails : («open».exec (session [.write])).1.isOk = false := by decide +kernel
  have vacant : (session [.write]).device.lifecycle ≠ .started true := by decide +kernel
  refine ⟨⟨_, exec_of_result succeeds, ?_⟩, ?_⟩
  · exact (open_is_all_or_nothing _ _ _ _ _ (rfl : _ = session [])
      (exec_of_result succeeds)).2.2.2 rfl
  · cases result : («open».exec (session [.write])).1 with
    | ok _ => cases fails.symm.trans (congrArg Except.isOk result)
    | error e =>
        exact ⟨e, _, exec_of_result result, (open_is_all_or_nothing _ _ _ _ _
          (rfl : _ = session [.write]) (exec_of_result result)).2.2.1 e rfl vacant⟩

end Session

end ModemLink
