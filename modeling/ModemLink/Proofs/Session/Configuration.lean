import ModemLink.Proofs.Session.Conduct
import ModemLink.Proofs.Session.Parts
import ModemLink.Proofs.Session.Possession
import ModemLink.Scripted

/-!
# Configurations and selected interfaces

A device has a configuration, and the interfaces selected for it, exactly while it is started. Only
a surprise removal leaves the selection as it is, with nothing there to release it to.
-/

namespace ModemLink

open Act

namespace Possession

structure Consistent (surprised : Bool) (p : Possession) : Prop where
  orderly : p.ledger.orderly = true
  configured : p.configuration.isSome = p.lifecycle.isStarted
  serves : ∀ config, p.configuration = some config → config.Serves p.mux
  held : p.ledger.held = p.lifecycle.isStarted ∨
    surprised = true ∧ p.lifecycle.isRemoved = true

namespace Consistent

variable {surprised : Bool} {p q : Possession}

theorem unconfigured (consistent : p.Consistent surprised)
    (unstarted : p.lifecycle.isStarted = false) : p.configuration = none := by
  have configured := consistent.configured.trans unstarted
  exact Option.not_isSome_iff_eq_none.mp (Bool.eq_false_iff.mp configured)

theorem free (consistent : p.Consistent surprised) (present : p.lifecycle = .present) :
    p.ledger = .free := by
  have held : p.ledger.held = false := by
    obtain held | ⟨-, removed⟩ := consistent.held
    · rw [held, present]
      rfl
    · rw [present] at removed
      cases removed
  exact Ledger.eq_free consistent.orderly held

theorem vacant (unstarted : p.lifecycle.isStarted = false) : p.vacant.Consistent surprised :=
  ⟨rfl, unstarted.symm, nofun, .inl unstarted.symm⟩

theorem furnished (started : p.lifecycle.isStarted = true) {config : UsbConfiguration}
    (serves : config.Serves p.mux) : (p.furnished config).Consistent surprised := by
  refine ⟨rfl, started.symm, ?_, .inl started.symm⟩
  rintro _ ⟨⟩
  exact serves

/-- A client that comes or goes. -/
theorem reattended (consistent : p.Consistent surprised) (started : p.lifecycle.isStarted = true)
    (inService : Bool) : { p with lifecycle := .started inService }.Consistent surprised := by
  refine ⟨consistent.orderly, consistent.configured.trans started, consistent.serves, .inl ?_⟩
  obtain held | ⟨-, removed⟩ := consistent.held
  · exact held.trans started
  · have there := Lifecycle.isRemoved_of_isPresent (Lifecycle.isPresent_of_isStarted started)
    cases there.symm.trans removed

theorem starts (kept : p.lifecycle ≠ .present → p.Consistent surprised) (starts : p.Starts q) :
    q.Consistent surprised := by
  cases starts with
  | kept away => exact kept away
  | undone present => exact vacant (by rw [present]; rfl)
  | begun present config serves => exact furnished rfl serves

theorem released (consistent : p.Consistent surprised) (unstarted : p.lifecycle.isStarted = false) :
    (p.noted .releaseInterfaces).Consistent surprised :=
  ⟨consistent.orderly, consistent.configured, consistent.serves, .inl unstarted.symm⟩

theorem dropped_unstarted (consistent : p.Consistent surprised)
    (unstarted : p.lifecycle.isStarted = false) : p.dropped = p := by
  rw [Possession.dropped, consistent.unconfigured unstarted]
  rfl

theorem dropped (consistent : p.Consistent surprised) {lifecycle : Lifecycle}
    (unstarted : lifecycle.isStarted = false)
    (removed : p.lifecycle.isRemoved = true → lifecycle.isRemoved = true) :
    { p.dropped with lifecycle }.Consistent surprised := by
  unfold Possession.dropped
  split <;> rename_i configured
  · exact ⟨consistent.orderly, unstarted.symm, nofun, .inl unstarted.symm⟩
  · have unstarted' : p.lifecycle.isStarted = false := by
      rw [← consistent.configured]
      exact Bool.eq_false_iff.mpr configured
    have none := consistent.unconfigured unstarted'
    refine ⟨consistent.orderly, ?_, consistent.serves, ?_⟩
    · rw [none, unstarted]
      rfl
    · obtain held | ⟨surprise, away⟩ := consistent.held
      · exact .inl (held.trans (unstarted'.trans unstarted.symm))
      · exact .inr ⟨surprise, removed away⟩

theorem surpriseRemoved (consistent : p.Consistent true) :
    { p with
      lifecycle := p.lifecycle.advance .surpriseRemove
      configuration := none }.Consistent true := by
  have unstarted := p.lifecycle.advance_surpriseRemove
  refine ⟨consistent.orderly, unstarted.symm, nofun, ?_⟩
  cases started : p.lifecycle.isStarted with
  | true => exact .inr ⟨rfl, Lifecycle.isRemoved_advance_surpriseRemove (.inl started)⟩
  | false =>
      obtain held | ⟨-, away⟩ := consistent.held
      · exact .inl (held.trans (started.trans unstarted.symm))
      · exact .inr ⟨rfl, Lifecycle.isRemoved_advance_surpriseRemove (.inr away)⟩

end Consistent

variable {surprised : Bool} {η : Type}

theorem overlooksPower : OverlooksPower (Session.possession : Session η → Possession) where
  toOverlooksLoops := possession_overlooksLoops
  power _ _ := rfl
  notices session notification notice := by
    simp [Session.possession, Ledger.ofEvents_concat, Ledger.note]

/-! ## Attaching and detaching -/

theorem maintains_opened :
    (apply .opened : Act η Unit).Maintains Session.possession (Consistent surprised) := by
  intro p consistent
  refine takes_apply ?_ fun _ _ => consistent
  intro lifecycle moved
  obtain ⟨free, rfl⟩ := Lifecycle.next_opened moved
  exact consistent.reattended (by rw [free]; rfl) true

theorem maintains_closed :
    (apply .closed : Act η Unit).Maintains Session.possession (Consistent surprised) := by
  intro p consistent
  refine takes_apply ?_ fun _ _ => consistent
  intro lifecycle moved
  obtain ⟨started, rfl⟩ := Lifecycle.next_closed moved
  exact consistent.reattended started false

section Host

variable [Host η]

theorem maintains_attach :
    (Session.attach : Act η Unit).Maintains Session.possession (Consistent surprised) :=
  overlooksPower.maintains_attach maintains_closed maintains_opened

theorem maintains_close :
    (Session.close : Act η Unit).Maintains Session.possession (Consistent surprised) :=
  overlooksPower.maintains_close maintains_closed

/-! ## Operations -/

theorem maintains_start :
    (Session.start : Act η Unit).Maintains Session.possession (Consistent surprised) :=
  fun _ consistent => (takes_start consistent.free).imp fun _ _ => .starts fun _ => consistent

theorem maintains_reinit :
    (Session.reinit : Act η Unit).Maintains Session.possession (Consistent surprised) := by
  refine passes_device.spares.before fun d => ?_
  dsimp only
  have reattached (wasOpen : Bool) : (if wasOpen then Session.attach else pure () :
      Act η Unit).Maintains Session.possession (Consistent surprised) := by
    split
    · exact maintains_attach
    · exact (spares_pure ()).maintains
  refine (passes_stopAll _ _ _ _).spares.before fun _ => ?_
  refine maintains_either ?_ fun restarts => maintains_closed.seq fun _ => restarts
  intro p consistent
  refine brings_releaseInterfaces.bind fun _ => Takes.bind (takes_apply ?_ ?_)
  · intro lifecycle moved
    cases Lifecycle.next_stop moved
    -- Until the start the device is present with its old configuration.
    refine (passes_onPower _).bind fun _ =>
      (possession_overlooks.spares_storeIncrement _ fun _ _ => rfl).attempt.bind fun _ => ?_
    have free : (p.noted .releaseInterfaces).ledger = .free := Ledger.eq_free consistent.orderly rfl
    refine Takes.andThen (takes_start fun _ => free) (fun _ q starts => ?_) fun _ q starts => ?_
    · exact reattached _ q (.starts (fun away => absurd rfl away) starts)
    · exact .starts (fun away => absurd rfl away) starts
  · intro e refused
    exact consistent.released (Lifecycle.next_stop_refused refused).2

theorem maintains_stop :
    (Session.stop : Act η Unit).Maintains Session.possession (Consistent surprised) := by
  refine maintains_close.attempt.seq fun _ => ?_
  -- The configuration goes first, so what lies between is not consistent and is run as a whole.
  intro p consistent
  refine (passes_stopAll _ _ _ _).bind fun _ => brings_dropConfiguration.bind fun _ =>
    (passes_onPower _).bind fun _ => takes_apply ?_ ?_
  · intro lifecycle moved
    rw [p.dropped_lifecycle] at moved
    have there := Lifecycle.isRemoved_of_isPresent (Lifecycle.isPresent_of_next_stop moved)
    cases Lifecycle.next_stop moved
    exact consistent.dropped rfl fun removed =>
      absurd (there.symm.trans removed) Bool.false_ne_true
  · intro e refused
    rw [p.dropped_lifecycle] at refused
    rw [consistent.dropped_unstarted (Lifecycle.next_stop_refused refused).2]
    exact consistent

theorem maintains_shutdown :
    (Session.shutdown : Act η Unit).Maintains Session.possession (Consistent surprised) := by
  refine maintains_close.attempt.seq fun _ => ?_
  intro p consistent
  refine (passes_stopAll _ _ _ _).bind fun _ => brings_dropConfiguration.bind fun _ =>
    (brings_attempt_apply .remove).takes fun _ => ?_
  rw [Lifecycle.advance_remove]
  exact consistent.dropped rfl fun _ => rfl

theorem maintains_surpriseRemove :
    (Session.surpriseRemove : Act η Unit).Maintains Session.possession (Consistent true) := by
  intro p consistent
  refine (brings_attempt_apply .surpriseRemove).bind fun _ => (passes_stopAll _ _ _ _).bind fun _ =>
    (possession_overlooks.passes_onQueues _).bind fun _ => ?_
  have cleared (q : Possession) : (onDevice fun d => { d with configuration := none } :
      Act η Unit).Brings Session.possession q { q with configuration := none } := by
    refine brings_onDevice fun session known => ?_
    rw [← known]
    rfl
  exact (cleared _).bind fun _ => (passes_onPower _).bind fun _ => (passes_notify _).takes fun _ =>
    consistent.surpriseRemoved

theorem maintains_perform (operation : Operation)
    (surprise : operation = .surpriseRemove → surprised = true) :
    (operation.perform : Act η Unit).Maintains Session.possession (Consistent surprised) := by
  cases operation with
  | start => exact maintains_start
  | «open» =>
      exact overlooksPower.maintains_open maintains_reinit maintains_closed maintains_opened
  | close => exact maintains_close
  | stop => exact maintains_stop
  | surpriseRemove =>
      cases surprise rfl
      exact maintains_surpriseRemove
  | shutdown => exact maintains_shutdown
  | send channel payload =>
      exact overlooksPower.maintains_send maintains_reinit channel payload
  | pollIdle now =>
      exact (overlooksPower.spares_pollIdle now).before fun _ => (spares_pure ()).maintains
  | power request => exact overlooksPower.maintains_handlePower maintains_reinit request

end Host

end Possession

namespace Session

variable {η : Type} [Host η]

theorem traffic_misses_possession :
    Footprint.traffic.Misses (possession : Session η → Possession) := by
  intro change s t allowed makes
  cases makes with
  | event _ event =>
      cases event with
      | selectConfiguration | releaseInterfaces => cases allowed
      | _ => simp [Session.possession, Ledger.ofEvents_concat, Ledger.note]
  | host | queues | details => rfl
  | _ => cases allowed

omit [Host η] in
theorem create_consistent (key : AdapterKey) (host : η) (store : Store) (options : SessionOptions)
    (surprised : Bool) : (create key host store options).possession.Consistent surprised :=
  ⟨rfl, rfl, nofun, .inl rfl⟩

theorem through_consistent (session : Session η) (happenings : List Happening) (surprised : Bool)
    (surprise : .operation .surpriseRemove ∈ happenings → surprised = true)
    (consistent : session.possession.Consistent surprised) :
    (session.through happenings).possession.Consistent surprised := by
  refine through_maintains traffic_misses_possession session happenings
    (fun operation member => ?_) consistent
  refine Possession.maintains_perform operation fun removed => surprise ?_
  rwa [← removed]

/-- Whatever the host answers, a device has a configuration just while it is started, with both bulk
pipes unless it is a multiplexed channel, and nothing is selected while an earlier selection is
outstanding. Without a surprise removal one is outstanding just while the device is started. -/
theorem configuration_follows_lifecycle (key : AdapterKey) (host : η) (store : Store)
    (options : SessionOptions) (happenings : List Happening) {session : Session η}
    (reached : (create key host store options).through happenings = session) :
    (session.device.configuration.isSome = true ↔ session.device.lifecycle.isStarted = true) ∧
      (∀ config, session.device.configuration = some config →
        session.device.mux.enabled = true ∧ session.device.mux.isPrimary = false ∨
          (config.pipe? .bulkIn).isSome = true ∧ (config.pipe? .bulkOut).isSome = true) ∧
      (.operation .surpriseRemove ∉ happenings →
        (Outstanding session.trace.toList ↔ session.device.lifecycle.isStarted = true)) ∧
      ∀ before value interfaces ok after,
        session.trace.toList = before ++ .selectConfiguration value interfaces ok :: after →
          ¬ Outstanding before := by
  subst reached
  have first (surprised : Bool) := create_consistent key host store options surprised
  have consistent := through_consistent _ happenings true (fun _ => rfl) (first true)
  refine ⟨Bool.eq_iff_iff.mp consistent.configured, consistent.serves, fun gentle => ?_, ?_⟩
  · have consistent := through_consistent _ happenings false (fun member => absurd member gentle)
      (first false)
    obtain held | ⟨surprise, -⟩ := consistent.held
    · exact (Ledger.held_ofEvents _).symm.trans (Bool.eq_iff_iff.mp held)
    · cases surprise
  · intro before value interfaces ok after split
    have orderly : (Ledger.ofEvents _).orderly = true := consistent.orderly
    rw [split] at orderly
    exact Ledger.free_before_selection orderly

/-- The first of two configurations has no bulk pipes: it is selected and released again, at the
start and when the device has lost power. -/
theorem configuration_follows_lifecycle_second_chosen :
    let modem : ScriptedModem :=
      { device := (DeviceDescriptor.build 0x05c6 0x9025).set 17 2
        config := ConfigPlan.build
          { records := [.interface 0 0 0xFF 0xFF 1, .endpoint 0x81 3 8] }
        moreConfigs := [ConfigPlan.modem.build.set 5 2] }
    let session := (create ⟨220, 10, 0⟩ modem {} {}).run
      [.start, .open, .power (.setSystem .sleeping3), .power (.setDevice .d3),
        .power (.setSystem .working), .power (.setDevice .d0)]
    session.device.lifecycle = .started true ∧
      session.device.configuration.map UsbConfiguration.value = some 2 ∧
        Outstanding session.trace.toList := by
  intro modem session
  have started : session.device.lifecycle = .started true := by decide +kernel
  have reached : _ = session := through_operations _ _
  obtain ⟨-, -, outstanding, -⟩ := configuration_follows_lifecycle _ modem _ _ _ reached
  refine ⟨started, by decide +kernel, (outstanding (by decide)).mpr ?_⟩
  rw [started]
  rfl

end Session

end ModemLink
