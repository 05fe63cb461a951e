import Mathlib.Data.List.Induction
import ModemLink.Proofs.Session.Outcome
import ModemLink.Proofs.Session.Routine

/-!
# Possession of the device

The ledger of a trace keeps whether a selection is outstanding, and whether each was made with none
outstanding. A start leaves a device that either has its configuration and the interfaces selected
for it, or neither (`Possession.takes_start`).
-/

namespace ModemLink

open Act

variable {η α : Type}

/-! ## The ledger -/

/-- A successful selection after which the interfaces were not released. -/
def Outstanding (events : List Event) : Prop :=
  ∃ before value interfaces after,
    events = before ++ .selectConfiguration value interfaces true :: after ∧
      .releaseInterfaces ∉ after

structure Ledger where
  held : Bool
  /-- Nothing was selected while a selection was outstanding. -/
  orderly : Bool

namespace Ledger

def note (ledger : Ledger) : Event → Ledger
  | .selectConfiguration _ _ ok => ⟨ledger.held || ok, ledger.orderly && !ledger.held⟩
  | .releaseInterfaces => { ledger with held := false }
  | _ => ledger

def free : Ledger := ⟨false, true⟩

def claimed : Ledger := ⟨true, true⟩

def ofEvents (events : List Event) : Ledger := events.foldl note free

theorem eq_free {ledger : Ledger} (orderly : ledger.orderly = true) (held : ledger.held = false) :
    ledger = free := by
  cases ledger
  cases orderly
  cases held
  rfl

theorem ofEvents_concat (events : List Event) (event : Event) :
    ofEvents (events ++ [event]) = (ofEvents events).note event :=
  List.foldl_append

end Ledger

theorem outstanding_concat {events : List Event} {event : Event} :
    Outstanding (events ++ [event]) ↔
      (∃ value interfaces, event = .selectConfiguration value interfaces true) ∨
        event ≠ .releaseInterfaces ∧ Outstanding events := by
  constructor
  · rintro ⟨before, value, interfaces, after, split, kept⟩
    cases after using List.reverseRecOn with
    | nil =>
        obtain ⟨-, same⟩ := List.append_inj' split rfl
        exact .inl ⟨value, interfaces, List.singleton_inj.mp same⟩
    | append_singleton after last =>
        rw [← List.cons_append, ← List.append_assoc] at split
        obtain ⟨rfl, same⟩ := List.append_inj' split rfl
        cases List.singleton_inj.mp same
        simp only [List.mem_append, List.mem_singleton, not_or] at kept
        exact .inr ⟨Ne.symm kept.2, before, value, interfaces, after, rfl, kept.1⟩
  · rintro (⟨value, interfaces, rfl⟩ | ⟨kept, before, value, interfaces, after, rfl, kept'⟩)
    · exact ⟨events, value, interfaces, [], rfl, List.not_mem_nil⟩
    · refine ⟨before, value, interfaces, after ++ [event], by simp, ?_⟩
      simp only [List.mem_append, List.mem_singleton, not_or]
      exact ⟨kept', Ne.symm kept⟩

theorem Ledger.held_ofEvents (events : List Event) :
    (ofEvents events).held = true ↔ Outstanding events := by
  induction events using List.reverseRecOn with
  | nil =>
      refine ⟨nofun, ?_⟩
      rintro ⟨before, value, interfaces, after, split, -⟩
      cases before <;> cases split
  | append_singleton events event ih =>
      rw [ofEvents_concat, outstanding_concat, ← ih]
      cases event with
      | selectConfiguration value interfaces ok => cases ok <;> simp [note]
      | _ => simp [note]

theorem Ledger.orderly_of_append {before after : List Event}
    (orderly : (ofEvents (before ++ after)).orderly = true) :
    (ofEvents before).orderly = true := by
  induction after using List.reverseRecOn with
  | nil => simpa using orderly
  | append_singleton after event ih =>
      rw [← List.append_assoc, ofEvents_concat] at orderly
      refine ih ?_
      cases event with
      | selectConfiguration =>
          simp only [note, Bool.and_eq_true] at orderly
          exact orderly.1
      | _ => exact orderly

theorem Ledger.free_before_selection {before after : List Event} {value : UInt8}
    {interfaces : List Selection} {ok : Bool}
    (orderly : (ofEvents (before ++ .selectConfiguration value interfaces ok :: after)).orderly =
      true) : ¬ Outstanding before := by
  rw [List.append_cons] at orderly
  have selected := orderly_of_append orderly
  rw [ofEvents_concat] at selected
  simp only [note, Bool.and_eq_true, Bool.not_eq_eq_eq_not, Bool.not_true] at selected
  rw [← held_ofEvents, selected.2]
  exact Bool.false_ne_true

/-! ## Configurations -/

/-- A channel that is multiplexed over another function needs no pipes of its own. -/
def UsbConfiguration.Serves (config : UsbConfiguration) (mux : MuxConfig) : Prop :=
  mux.enabled = true ∧ mux.isPrimary = false ∨
    (config.pipe? .bulkIn).isSome = true ∧ (config.pipe? .bulkOut).isSome = true

theorem Model.bulk_of_classify {pipes : List PipeInfo} {mux : MuxConfig}
    (known : classify pipes mux ≠ .none) :
    mux.enabled = true ∧ mux.isPrimary = false ∨
      pipes.any (·.role == .bulkIn) = true ∧ pipes.any (·.role == .bulkOut) = true := by
  unfold classify at known
  split at known <;> rename_i derived
  · exact .inl (by simpa using derived)
  · dsimp only at known
    split at known <;> rename_i both
    · exact .inr (by simpa only [Bool.and_eq_true] using both)
    · exact absurd rfl known

theorem UsbConfiguration.isSome_pipe? (config : UsbConfiguration) (role : PipeRole) :
    (config.pipe? role).isSome = config.pipes.any (·.role == role) := by
  rw [pipe?, List.isSome_find?]

theorem UsbConfiguration.serves_of_build {header : ConfigHeader} {plan : InterfacePlan}
    {pipes : List Pipe} {mux : MuxConfig} {config : UsbConfiguration}
    (built : build header plan pipes mux = .ok config) : config.Serves mux := by
  obtain ⟨infos, known, -, rfl⟩ := UsbConfiguration.build_ok built
  simp only [Serves, isSome_pipe?]
  exact Model.bulk_of_classify known

/-! ## Possession -/

structure Possession where
  mux : MuxConfig
  lifecycle : Lifecycle
  configuration : Option UsbConfiguration
  ledger : Ledger

def Session.possession (session : Session η) : Possession where
  mux := session.device.mux
  lifecycle := session.device.lifecycle
  configuration := session.device.configuration
  ledger := .ofEvents session.trace.toList

theorem Ledger.note_of_isRoutine (ledger : Ledger) (event : Event)
    (routine : event.isRoutine = true) : ledger.note event = ledger := by
  cases event with
  | selectConfiguration | releaseInterfaces => cases routine
  | _ => rfl

theorem possession_overlooks : Overlooks (Session.possession : Session η → Possession) where
  host _ _ := rfl
  serial _ _ := rfl
  device session device same := by
    simp only [Session.possession, same.mux, same.lifecycle, same.configuration]
  trace session event routine := by
    simp [Session.possession, Ledger.ofEvents_concat, Ledger.note_of_isRoutine _ event routine]

theorem possession_overlooksLoops :
    OverlooksLoops (Session.possession : Session η → Possession) where
  toOverlooks := possession_overlooks
  loops _ _ := rfl
  starting session name ok := by
    simp [Session.possession, Ledger.ofEvents_concat, Ledger.note]
  stopping session name tag wait ok := by
    simp [Session.possession, Ledger.ofEvents_concat, Ledger.note]

namespace Possession

variable (p : Possession)

def noted (event : Event) : Possession := { p with ledger := p.ledger.note event }

def vacant : Possession := { p with configuration := none, ledger := .free }

def furnished (config : UsbConfiguration) : Possession :=
  { p with configuration := some config, ledger := .claimed }

/-- Without its configuration, and without the interfaces if there was one. -/
def dropped : Possession :=
  if p.configuration.isSome then { p.noted .releaseInterfaces with configuration := none } else p

inductive Configures (mux : MuxConfig) : Except DriverError UsbConfiguration → Possession → Prop
  | selected (config : UsbConfiguration) (serves : config.Serves mux) :
      Configures mux (.ok config) { p with ledger := .claimed }
  | refused (e : DriverError) : Configures mux (.error e) p

inductive Equips : Except DriverError Unit → Possession → Prop
  | furnished (result : Except DriverError Unit) (config : UsbConfiguration)
      (serves : config.Serves p.mux) : Equips result (p.furnished config)
  | vacant (e : DriverError) : Equips (.error e) p.vacant

inductive Starts : Possession → Prop
  | kept (away : p.lifecycle ≠ .present) : Starts p
  | undone (present : p.lifecycle = .present) : Starts p.vacant
  | begun (present : p.lifecycle = .present) (config : UsbConfiguration)
      (serves : config.Serves p.mux) :
      Starts ({ p with lifecycle := .started false }.furnished config)

variable {p}

theorem noted_selected (free : p.ledger = .free) {value : UInt8} {interfaces : List Selection} :
    p.noted (.selectConfiguration value interfaces true) = { p with ledger := .claimed } := by
  rw [noted, free]
  rfl

theorem dropped_lifecycle (p : Possession) : p.dropped.lifecycle = p.lifecycle := by
  unfold dropped
  split <;> rfl

/-- A selection that is released again has not been, whether or not it succeeded. -/
theorem noted_released (free : p.ledger = .free) {value : UInt8} {interfaces : List Selection}
    {ok : Bool} :
    (p.noted (.selectConfiguration value interfaces ok)).noted .releaseInterfaces = p := by
  cases p
  cases free
  rfl

/-! ## Primitive actions -/

theorem brings_emit (event : Event) :
    (emit event : Act η Unit).Brings Session.possession p (p.noted event) := by
  rintro session rfl
  refine ⟨(), _, exec_emit event session, ?_⟩
  simp [Session.possession, noted, Ledger.ofEvents_concat]

/-- An event that is not entered in the ledger. -/
theorem passes_emit {event : Event} (idle : ∀ ledger : Ledger, ledger.note event = ledger) :
    (emit event : Act η Unit).Passes Session.possession := by
  intro session
  have brings := brings_emit event session rfl
  rwa [noted, idle] at brings

theorem passes_notify (notification : Notification) :
    (notify notification : Act η Unit).Passes Session.possession :=
  passes_emit fun _ => rfl

theorem brings_onDevice {f : Device → Device} {q : Possession}
    (reached : ∀ session : Session η, session.possession = p →
      ({ session with device := f session.device } : Session η).possession = q) :
    (onDevice f : Act η Unit).Brings Session.possession p q :=
  fun session known => ⟨(), _, exec_onDevice f session, reached session known⟩

theorem passes_onPower (f : PowerRecord → PowerRecord) :
    (onPower f : Act η Unit).Passes Session.possession :=
  fun _ => ⟨(), _, rfl, rfl⟩

theorem takes_apply {event : LifecycleEvent} {post : Except DriverError Unit → Possession → Prop}
    (moved : ∀ lifecycle, p.lifecycle.next event = .ok lifecycle →
      post (.ok ()) { p with lifecycle })
    (refused : ∀ e, p.lifecycle.next event = .error e → post (.error e) p) :
    (apply event : Act η Unit).Takes Session.possession p post := by
  refine takes_device fun session known => ?_
  subst known
  cases outcome : session.device.lifecycle.next event with
  | error e => exact takes_throw (refused e outcome)
  | ok lifecycle =>
      have moves : (onDevice fun d => { d with lifecycle } : Act η Unit).Brings Session.possession
          session.possession { session.possession with lifecycle } := by
        refine brings_onDevice fun other same => ?_
        rw [← same]
        rfl
      exact moves.takes fun _ => moved lifecycle outcome

theorem brings_attempt_apply (event : LifecycleEvent) :
    (attempt (apply event) : Act η Unit).Brings Session.possession p
      { p with lifecycle := p.lifecycle.advance event } := by
  refine Takes.attempt_brings (takes_apply ?_ ?_)
  · intro lifecycle moved
    rw [Lifecycle.advance, moved]
  · intro e refused
    rw [Lifecycle.advance, refused]

section Host

variable [Host η]

theorem takes_selectConfiguration {value : UInt8} {interfaces : List Selection}
    {post : Except DriverError (Except UsbError (List Pipe)) → Possession → Prop}
    (selected : ∀ result : Except UsbError (List Pipe),
      post (.ok result) (p.noted (.selectConfiguration value interfaces result.isOk))) :
    (selectConfiguration value interfaces : Act η _).Takes Session.possession p post :=
  (possession_overlooks.passes_onHost _).bind fun result =>
    (brings_emit _).bind fun _ => takes_pure (selected result)

theorem brings_releaseInterfaces :
    (releaseInterfaces : Act η Unit).Brings Session.possession p (p.noted .releaseInterfaces) :=
  (brings_emit _).seq fun _ => (possession_overlooks.passes_onHost _).brings

theorem passes_stopAll (read write dispatch interrupt : StopTag) :
    (stopAll read write dispatch interrupt : Act η Unit).Passes Session.possession :=
  possession_overlooksLoops.passes_stopAll read write dispatch interrupt

theorem brings_dropConfiguration :
    (Session.dropConfiguration : Act η Unit).Brings Session.possession p p.dropped := by
  refine brings_device fun session known => ?_
  have same : session.device.configuration = p.configuration := by
    rw [← known]
    rfl
  rw [same, dropped]
  split
  · refine brings_releaseInterfaces.seq fun _ => brings_onDevice fun other reached => ?_
    rw [← reached]
    rfl
  · exact (passes_pure ()).brings

/-! ## Enumeration -/

theorem takes_configure (index : UInt8) (mux : MuxConfig) (free : p.ledger = .free) :
    (Session.configure index mux : Act η _).Takes Session.possession p (p.Configures mux) := by
  refine (possession_overlooks.spares_readConfigDescriptor _).bind (fun raw => ?_) .refused
  refine (spares_orRefuse _).bind (fun header => ?_) .refused
  refine (spares_orThrow _).bind (fun plan => ?_) .refused
  refine Takes.bind (takes_selectConfiguration fun result => ?_)
  dsimp only [Onward]
  split <;> rename_i built
  · cases result with
    | error e => cases built
    | ok pipes =>
        refine takes_pure ?_
        rw [show Except.isOk (.ok pipes : Except UsbError (List Pipe)) = true from rfl,
          noted_selected free]
        exact .selected _ (UsbConfiguration.serves_of_build built)
  · refine brings_releaseInterfaces.bind fun _ => takes_throw ?_
    rw [noted_released free]
    exact .refused _

theorem takes_configureFirst (mux : MuxConfig) (indices : List UInt8) (failure : DriverError)
    (free : p.ledger = .free) :
    (Session.configureFirst mux indices failure : Act η _).Takes Session.possession p
      (p.Configures mux) := by
  induction indices generalizing failure with
  | nil => exact takes_throw (.refused failure)
  | cons index rest ih =>
      refine (takes_configure index mux free).tryCatch (fun config q configures => configures) ?_
      intro e q configures
      cases configures with
      | refused => exact ih e

theorem takes_configureAny (count : UInt8) (free : p.ledger = .free) :
    (Session.configureAny count : Act η _).Takes Session.possession p (p.Configures p.mux) := by
  refine takes_device fun session known => ?_
  have mux : session.device.mux = p.mux := by
    rw [← known]
    rfl
  rw [mux]
  exact takes_configureFirst _ _ _ free

theorem takes_settle (descriptor : DeviceDescriptor) (strings : DeviceStrings) :
    (Session.settle descriptor strings : Act η Unit).Takes Session.possession p.vacant
      p.Equips := by
  refine passes_get.bind fun _ => ?_
  dsimp only
  refine Passes.bind (possession_overlooks.passes_onDevice fun _ => ⟨rfl, rfl, rfl, rfl⟩)
    fun _ => ?_
  refine (takes_configureAny _ rfl).andThen ?_ ?_
  · rintro config _ ⟨config, serves⟩
    refine Brings.takes (brings_onDevice fun session known => ?_) fun _ =>
      .furnished _ config serves
    rw [Session.possession, Possession.mk.injEq] at known ⊢
    exact ⟨known.1, known.2.1, rfl, known.2.2.2⟩
  · rintro e _ ⟨⟩
    exact .vacant e

theorem takes_enumerate (free : p.ledger = .free) :
    (Session.enumerate : Act η Unit).Takes Session.possession p p.Equips := by
  have reset : (onDevice Device.resetDescriptorCache : Act η Unit).Brings Session.possession p
      p.vacant := by
    refine brings_onDevice fun session known => ?_
    rw [← known] at free ⊢
    rw [vacant, ← free]
    rfl
  exact possession_overlooks.takes_enumerate reset .vacant takes_settle

/-! ## Starting -/

theorem takes_startSequence (free : p.ledger = .free) :
    (Session.startSequence : Act η Unit).Takes Session.possession p p.Equips := by
  refine (takes_enumerate free).andThen ?_ fun _ _ => id
  rintro _ _ ⟨_, config, serves⟩
  exact possession_overlooksLoops.spares_bringUp.takes fun result =>
    .furnished result config serves

theorem brings_rollbackStart {q : Possession} {result : Except DriverError Unit}
    (equips : p.Equips result q) (started : p.lifecycle = .started false) :
    (Session.rollbackStart : Act η Unit).Brings Session.possession q
      { p.vacant with lifecycle := .present } := by
  have dropped : q.dropped = p.vacant := by
    cases equips <;> rfl
  have stops : (attempt (apply .stop) : Act η Unit).Brings Session.possession p.vacant
      { p.vacant with lifecycle := p.lifecycle.advance .stop } :=
    brings_attempt_apply .stop
  rw [started] at stops
  refine (passes_stopAll _ _ _ _).brings.seq fun _ => brings_dropConfiguration.seq fun _ => ?_
  rw [dropped]
  exact stops

theorem takes_startPresent (unstarted : p.lifecycle.isStarted = false)
    (free : p.lifecycle = .present → p.ledger = .free) :
    (Session.startPresent : Act η Unit).Takes Session.possession p fun _ q => p.Starts q := by
  refine Takes.bind (takes_apply ?_ ?_)
  · intro lifecycle moved
    obtain ⟨present, rfl⟩ := Lifecycle.next_start moved unstarted
    have launched : (tryCatch Session.startSequence fun e => do
        Session.rollbackStart
        throw e : Act η Unit).Takes Session.possession { p with lifecycle := .started false }
          fun _ q => p.Starts q := by
      refine Takes.tryCatch (takes_startSequence (free present)) ?_ ?_
      · rintro _ _ ⟨_, config, serves⟩
        exact .begun present config serves
      · intro e q equips
        refine (brings_rollbackStart equips rfl).bind fun _ => takes_throw ?_
        have back : { p.vacant with lifecycle := .present } = p.vacant := by
          rw [← present]
          rfl
        exact back ▸ .undone present
    refine launched.andThen (fun _ q starts => ?_) fun _ _ => id
    refine (passes_onPower _).bind fun _ =>
      (possession_overlooks.spares_storeIncrement _ fun _ _ => rfl).attempt.bind fun _ =>
        passes_device.bind fun d => (passes_notify _).takes fun _ => starts
  · intro e refused
    refine .kept fun present => ?_
    rw [present] at refused
    cases refused

theorem takes_start (free : p.lifecycle = .present → p.ledger = .free) :
    (Session.start : Act η Unit).Takes Session.possession p fun _ q => p.Starts q := by
  refine takes_device fun session known => ?_
  have lifecycle : session.device.lifecycle = p.lifecycle := by
    rw [← known]
    rfl
  rw [lifecycle]
  cases state : p.lifecycle with
  | started inService => exact takes_pure (.kept (by simp [state]))
  | surpriseRemoved | removed => exact takes_throw (.kept (by simp [state]))
  | absent | present => exact takes_startPresent (by rw [state]; rfl) free

end Host

end Possession

end ModemLink
