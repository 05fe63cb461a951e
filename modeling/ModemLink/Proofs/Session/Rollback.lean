import Mathlib.Control.Monad.Basic
import ModemLink.Proofs.Session.Conduct
import ModemLink.Proofs.Session.Configuration
import ModemLink.Proofs.Session.PowerCycle
import ModemLink.Proofs.Store.Lookup

/-!
# Failed starts

A start of a present device either goes through or is undone: the start sequence fails somewhere and
is rolled back from there. What was selected is released again, and the loops are asked to stop.
-/

namespace ModemLink

open Act Footprint

variable {η : Type}

/-! ## Selections and releases -/

def Event.isClaim : Event → Bool
  | .selectConfiguration .. | .releaseInterfaces => true
  | _ => false

/-- Each selection, also one that failed, is followed by a release. -/
def Undone (events : List Event) : Prop :=
  ∀ before value interfaces ok after,
    events = before ++ .selectConfiguration value interfaces ok :: after →
      .releaseInterfaces ∈ after

theorem undone_concat (events : List Event) : Undone (events ++ [.releaseInterfaces]) := by
  intro before value interfaces ok after split
  cases after using List.reverseRecOn with
  | nil =>
      obtain ⟨-, same⟩ := List.append_inj' split rfl
      cases same
  | append_singleton after last =>
      rw [← List.cons_append, ← List.append_assoc] at split
      obtain ⟨-, same⟩ := List.append_inj' split rfl
      simp [← List.singleton_inj.mp same]

theorem Undone.append {first second : List Event} (undone : Undone first)
    (later : Undone second) : Undone (first ++ second) := by
  intro before value interfaces ok after split
  obtain ⟨tail, rfl, rest⟩ | ⟨tail, rfl, rest⟩ := List.append_eq_append_iff.mp split
  · exact later tail value interfaces ok after rest
  · cases tail with
    | nil => exact later [] value interfaces ok after rest.symm
    | cons event tail =>
        obtain ⟨rfl, rfl⟩ := List.cons.inj rest
        exact List.mem_append_left second (undone before value interfaces ok tail rfl)

theorem Undone.of_claims {events : List Event} (undone : Undone (events.filter Event.isClaim)) :
    Undone events := by
  rintro before value interfaces ok after rfl
  have released := undone (before.filter Event.isClaim) value interfaces ok
    (after.filter Event.isClaim) (by rw [List.filter_append]; rfl)
  exact (List.mem_filter.mp released).1

structure Claims where
  configured : Bool
  events : List Event

def Session.claims (session : Session η) : Claims where
  configured := session.device.configuration.isSome
  events := session.trace.toList.filter Event.isClaim

theorem claims_overlooks : OverlooksLoops (Session.claims : Session η → Claims) where
  host _ _ := rfl
  serial _ _ := rfl
  device session device same := by simp only [Session.claims, same.configuration]
  trace session event routine := by
    have other : event.isClaim = false := by
      cases event with
      | selectConfiguration | releaseInterfaces => cases routine
      | _ => rfl
    simp [Session.claims, List.filter_append, other]
  loops _ _ := rfl
  starting session name ok := by simp [Session.claims, List.filter_append, Event.isClaim]
  stopping session name tag wait ok := by simp [Session.claims, List.filter_append, Event.isClaim]

namespace Claims

variable {v w u : Claims} {held later : Bool}

/-- What was selected since is either held or undone. -/
def Grows (v w : Claims) (held : Bool) : Prop :=
  ∃ events, w.events = v.events ++ events ∧ (held = true ∨ Undone events)

theorem Grows.refl : v.Grows v held := by
  refine ⟨[], by simp, .inr ?_⟩
  intro before value interfaces ok after split
  simp at split

theorem Grows.trans (grows : v.Grows w false) (next : w.Grows u held) : v.Grows u held := by
  obtain ⟨events, grown, undone⟩ := grows
  obtain ⟨events', grown', undone'⟩ := next
  refine ⟨events ++ events', by simp [grown, grown'], undone'.imp_right ?_⟩
  exact (undone.resolve_left Bool.false_ne_true).append

theorem Grows.weaken (grows : v.Grows w false) : v.Grows w held :=
  grows.trans .refl

theorem Grows.release (grows : v.Grows w held)
    (released : u.events = w.events ++ [.releaseInterfaces]) : v.Grows u false := by
  obtain ⟨before, grown, -⟩ := grows
  exact ⟨before ++ [.releaseInterfaces], by simp [released, grown], .inr (undone_concat _)⟩

/-- Without its configuration. -/
def dropped (v : Claims) : Claims :=
  if v.configured then ⟨false, v.events ++ [.releaseInterfaces]⟩ else v

theorem Grows.dropped (grows : v.Grows w w.configured) : v.Grows w.dropped false := by
  unfold Claims.dropped
  split <;> rename_i configured
  · exact grows.release rfl
  · rwa [Bool.eq_false_iff.mpr configured] at grows

theorem brings_emit (event : Event) : (emit event : Act η Unit).Brings Session.claims v
    { v with events := v.events ++ [event].filter Event.isClaim } := by
  rintro session rfl
  refine ⟨(), _, exec_emit event session, ?_⟩
  simp [Session.claims, List.filter_append]

variable [Host η]

theorem brings_releaseInterfaces :
    (releaseInterfaces : Act η Unit).Brings Session.claims v
      { v with events := v.events ++ [.releaseInterfaces] } :=
  (brings_emit .releaseInterfaces).seq fun _ => (claims_overlooks.passes_onHost _).brings

theorem takes_selectConfiguration {value : UInt8} {interfaces : List Selection}
    {post : Except DriverError (Except UsbError (List Pipe)) → Claims → Prop}
    (selected : ∀ result w, v.Grows w true → post (.ok result) w) :
    (selectConfiguration value interfaces : Act η _).Takes Session.claims v post :=
  (claims_overlooks.passes_onHost _).bind fun result => (brings_emit _).bind fun _ =>
    takes_pure (selected result _ ⟨_, rfl, .inl rfl⟩)

/-! ## Starting -/

theorem takes_configure (index : UInt8) (mux : MuxConfig) :
    (Session.configure index mux : Act η _).Takes Session.claims v
      fun result w => v.Grows w result.isOk := by
  refine (claims_overlooks.spares_readConfigDescriptor _).bind (fun raw => ?_) fun _ => .refl
  refine (spares_orRefuse _).bind (fun header => ?_) fun _ => .refl
  refine (spares_orThrow _).bind (fun plan => ?_) fun _ => .refl
  refine Takes.bind (takes_selectConfiguration fun selected w grows => ?_)
  dsimp only [Onward]
  split
  · exact takes_pure grows
  · exact brings_releaseInterfaces.bind fun _ => takes_throw (grows.release rfl)

theorem takes_configureFirst (mux : MuxConfig) (indices : List UInt8) (failure : DriverError) :
    (Session.configureFirst mux indices failure : Act η _).Takes Session.claims v
      fun result w => v.Grows w result.isOk := by
  induction indices generalizing v failure with
  | nil => exact takes_throw .refl
  | cons index rest ih =>
      refine (takes_configure index mux).tryCatch (fun _ _ grows => grows) ?_
      intro e w grows
      exact (ih e).imp fun _ _ => grows.trans

theorem takes_settle (descriptor : DeviceDescriptor) (strings : DeviceStrings) :
    (Session.settle descriptor strings : Act η Unit).Takes Session.claims v
      fun _ w => v.Grows w w.configured := by
  refine passes_get.bind fun _ => ?_
  dsimp only
  refine Passes.bind (claims_overlooks.passes_onDevice fun _ => ⟨rfl, rfl, rfl, rfl⟩) fun _ => ?_
  have configures (count : UInt8) : (Session.configureAny count : Act η _).Takes Session.claims v
      fun result w => v.Grows w result.isOk :=
    passes_device.bind fun d => takes_configureFirst _ _ _
  refine (configures _).andThen ?_ fun _ _ => .weaken
  rintro config w ⟨events, grown, -⟩ session rfl
  exact ⟨events, grown, .inl rfl⟩

theorem takes_startSequence :
    (Session.startSequence : Act η Unit).Takes Session.claims v
      fun _ w => v.Grows w w.configured := by
  have reset : (onDevice Device.resetDescriptorCache : Act η Unit).Brings Session.claims v
      { v with configured := false } := by
    rintro session rfl
    exact ⟨(), _, rfl, rfl⟩
  have enumerates := claims_overlooks.takes_enumerate reset (fun _ => .refl) takes_settle
  refine Takes.andThen enumerates (fun _ w grows => ?_) fun _ _ grows => grows
  exact claims_overlooks.spares_bringUp.takes fun _ => grows

/-! ## Rolling back -/

theorem brings_dropConfiguration :
    (Session.dropConfiguration : Act η Unit).Brings Session.claims v v.dropped := by
  refine brings_device fun session known => ?_
  have same : session.device.configuration.isSome = v.configured := by
    rw [← known]
    rfl
  rw [same, dropped]
  split
  · refine brings_releaseInterfaces.seq fun _ => ?_
    intro other reached
    refine ⟨(), _, rfl, ?_⟩
    simpa [Session.claims] using congrArg Claims.events reached
  · exact (passes_pure ()).brings

theorem brings_rollbackStart :
    (Session.rollbackStart : Act η Unit).Brings Session.claims v v.dropped := by
  have stops : (apply .stop : Act η Unit).Spares Session.claims := by
    refine passes_device.spares.seq fun d => ?_
    split
    · exact fun _ => rfl
    · exact spares_throw _
  exact (claims_overlooks.passes_stopAll _ _ _ _).brings.seq fun _ =>
    brings_dropConfiguration.seq fun _ => stops.attempt.brings

end Claims

/-! ## Stopping the loops -/

def Event.refusesStop (name : LoopName) : Event → Bool
  | .stopLoop other _ _ ok => other = name && !ok
  | _ => false

theorem Event.eq_of_refusesStop {name : LoopName} {event : Event}
    (refuses : event.refusesStop name = true) :
    ∃ tag wait, event = .stopLoop name tag wait false := by
  cases event with
  | stopLoop other tag wait ok =>
      simp only [refusesStop, Bool.and_eq_true, decide_eq_true_eq, Bool.not_eq_eq_eq_not,
        Bool.not_true] at refuses
      obtain ⟨rfl, rfl⟩ := refuses
      exact ⟨tag, wait, rfl⟩
  | _ => cases refuses

structure Watch where
  live : Bool
  refusals : Nat

def Session.watch (name : LoopName) (session : Session η) : Watch where
  live := (session.loops.get name).live
  refusals := session.trace.toList.countP (Event.refusesStop name)

theorem watch_overlooks (name : LoopName) :
    Overlooks (Session.watch name : Session η → Watch) where
  host _ _ := rfl
  serial _ _ := rfl
  device _ _ _ := rfl
  trace session event routine := by
    have other : event.refusesStop name = false := by
      cases event with
      | stopLoop => cases routine
      | _ => rfl
    simp [Session.watch, List.countP_append, other]

namespace Watch

variable {name : LoopName} {v w u : Watch}

/-- The loop is down, or it refused to stop since. -/
def Halted (v w : Watch) : Prop := w.live = true → v.refusals < w.refusals

inductive Stops (asked : Prop) (v : Watch) : Watch → Prop
  | other (apart : ¬ asked) : Stops asked v v
  | stopped : Stops asked v { v with live := false }
  | refused : Stops asked v { v with refusals := v.refusals + 1 }

theorem Halted.stops {asked : Prop} (halted : v.Halted w) (stops : w.Stops asked u) :
    v.Halted u := by
  cases stops with
  | other => exact halted
  | stopped => exact nofun
  | refused => exact fun live => Nat.lt_succ_of_lt (halted live)

theorem Stops.halted {asked : Prop} (here : asked) (stops : v.Stops asked w) : v.Halted w := by
  cases stops with
  | other apart => exact absurd here apart
  | stopped => exact nofun
  | refused => exact fun _ => Nat.lt_succ_self _

theorem Stops.before {asked : Prop} (stops : v.Stops asked w) (halted : w.Halted u) :
    v.Halted u := by
  intro live
  have more := halted live
  cases stops with
  | refused => exact Nat.lt_of_succ_lt more
  | _ => exact more

theorem brings_called (other : LoopName) (tag : StopTag) (wait ok : Bool) :
    (emit (.stopLoop other tag wait ok) : Act η Unit).Brings (Session.watch name) v
      (if other = name ∧ ok = false then { v with refusals := v.refusals + 1 } else v) := by
  rintro session rfl
  refine ⟨(), _, exec_emit _ session, ?_⟩
  cases ok <;> by_cases here : other = name <;>
    simp [Session.watch, List.countP_append, Event.refusesStop, here]

theorem watch_setLoop (session : Session η) (other : LoopName) (loop : ServiceLoop) :
    Session.watch name { session with loops := session.loops.set other loop } =
      { session.watch name with
        live := if name = other then loop.live else (session.watch name).live } := by
  by_cases here : name = other <;> simp [Session.watch, here]

/-- One that is down already is not stopped again. -/
theorem stops_live (session : Session η) (other : LoopName) (tag : StopTag) :
    (session.watch name).Stops (other = name) (Session.watch name
      (if (session.loops.get other).live then
        { session with loops := session.loops.set other { live := false, closedTag := some tag } }
      else session)) := by
  by_cases here : other = name
  · subst here
    split <;> rename_i live
    · rw [watch_setLoop, if_pos rfl]
      exact .stopped
    · have down : { session.watch other with live := false } = session.watch other := by
        simp [Session.watch, Bool.eq_false_iff.mpr live]
      exact down ▸ .stopped
  · split
    · rw [watch_setLoop, if_neg (Ne.symm here)]
      exact .other here
    · exact .other here

variable [Host η] {post : Except DriverError Unit → Watch → Prop}

theorem takes_stopLoop {other : LoopName} {tag : StopTag} {wait : Bool}
    (stops : ∀ w, v.Stops (other = name) w → post (.ok ()) w) :
    (attempt (stopLoop other tag wait) : Act η Unit).Takes (Session.watch name) v post := by
  have stopped : (stopLoop other tag wait : Act η Unit).Takes (Session.watch name) v
      fun _ w => v.Stops (other = name) w := by
    refine ((watch_overlooks name).passes_onHost _).bind fun result =>
      (brings_called _ _ _ _).bind fun _ => ?_
    cases result with
    | error e =>
        apply takes_throw
        split <;> rename_i here
        · exact .refused
        · exact .other fun same => here ⟨same, rfl⟩
    | ok _ =>
        rw [if_neg (by rintro ⟨-, ⟨⟩⟩)]
        rintro session rfl
        exact stops_live session other tag
  exact stopped.attempt fun _ => stops

theorem takes_stopAll {read write dispatch interrupt : StopTag}
    (halted : ∀ w, v.Halted w → post (.ok ()) w) :
    (stopAll read write dispatch interrupt : Act η Unit).Takes (Session.watch name) v post := by
  refine Takes.bind (takes_stopLoop fun _ first => Takes.bind (takes_stopLoop fun _ second =>
    Takes.bind (takes_stopLoop fun _ third => takes_stopLoop fun _ fourth => halted _ ?_)))
  cases name with
  | read => exact (((first.halted rfl).stops second).stops third).stops fourth
  | write => exact first.before (((second.halted rfl).stops third).stops fourth)
  | dispatch => exact first.before (second.before ((third.halted rfl).stops fourth))
  | interrupt => exact first.before (second.before (third.before (fourth.halted rfl)))

theorem takes_rollbackStart :
    (Session.rollbackStart : Act η Unit).Takes (Session.watch name) v fun _ w => v.Halted w := by
  have released : (releaseInterfaces : Act η Unit).Passes (Session.watch name) := by
    refine Passes.seq (fun session => ⟨(), _, exec_emit _ session, ?_⟩) fun _ =>
      (watch_overlooks name).passes_onHost _
    simp [Session.watch, List.countP_append, Event.refusesStop]
  have dropped : (Session.dropConfiguration : Act η Unit).Passes (Session.watch name) := by
    refine passes_device.seq fun d => ?_
    split
    · exact released.seq fun _ session => ⟨(), _, rfl, rfl⟩
    · exact passes_pure ()
  have moved : (apply .stop : Act η Unit).Spares (Session.watch name) := by
    refine passes_device.spares.seq fun d => ?_
    split
    · exact fun _ => rfl
    · exact spares_throw _
  exact Takes.bind (takes_stopAll fun w halted => dropped.bind fun _ =>
    moved.attempt.takes fun _ => halted)

end Watch

/-! ## Runs -/

theorem Footprint.launching_misses_record [Host η] : (launching η).Misses
    fun s : Session η => (s.device.power, s.store.get .deviceStamp) := by
  intro change s t allowed makes
  cases makes with
  | store _ key value =>
      cases allowed
      simp [Store.get_set_other (show StoreKey.deviceStamp ≠ .serialNumber by decide)]
  | level | tenancy | suspension | waitWake | system => cases allowed
  | _ => rfl

namespace Session

variable [Host η] {session after : Session η} {e : DriverError}

/-- The session in which a start sequence begins. -/
def begun (session : Session η) : Session η := { session with device.lifecycle := .started false }

/-- A start of a present device fails in its sequence, and is rolled back from there. -/
theorem exec_start_failed (present : session.device.lifecycle = .present)
    (failed : start.exec session = (.error e, after)) :
    ∃ middle, startSequence.exec session.begun = (.error e, middle) ∧
      rollbackStart.exec middle = (.ok (), after) := by
  have applied : (apply .start).exec session = (.ok (), session.begun) := by
    rw [apply, exec_bind_ok (exec_device session), present]
    rfl
  rw [start, exec_bind_ok (exec_device session), present] at failed
  dsimp only at failed
  rw [startPresent, exec_bind_ok applied, exec_bind, exec_tryCatch] at failed
  cases sequence : startSequence.exec session.begun with
  | mk result middle =>
      rw [sequence] at failed
      cases result with
      | ok _ =>
          have announced : (do
              onPower fun p => { p with device := .d0 }
              attempt (storeIncrement .deviceStamp)
              notify (.deviceStarted (← Act.device).identity) : Act η Unit).Passes fun _ => () :=
            Passes.seq (fun _ => ⟨(), _, rfl, rfl⟩) fun _ =>
              Passes.seq (Spares.attempt fun _ => rfl) fun _ =>
                passes_device.seq fun _ _ => ⟨(), _, rfl, rfl⟩
          obtain ⟨_, _, succeeds, -⟩ := announced middle
          cases succeeds.symm.trans failed
      | error cause =>
          obtain ⟨_, done, undone, -⟩ := Claims.brings_rollbackStart middle rfl
          dsimp only at failed
          rw [exec_bind_ok undone] at failed
          cases failed
          exact ⟨middle, rfl, undone⟩

section Failed

variable (present : session.device.lifecycle = .present)
  (failed : start.exec session = (.error e, after))

include present failed

theorem start_failed_launches : (launching η).Reaches session after := by
  obtain ⟨middle, sequence, undone⟩ := exec_start_failed present failed
  have moved : session.device.lifecycle.next .start = .ok (.started false) := by
    rw [present]
    rfl
  have entered : (launching η).Reaches session session.begun :=
    .single (.lifecycle session moved) trivial
  exact entered.trans ((within_startSequence.reaches sequence).trans
    (within_rollbackStart.reaches undone))

theorem start_failed_undoes : session.claims.Grows after.claims false := by
  obtain ⟨middle, sequence, undone⟩ := exec_start_failed present failed
  have grows := Claims.takes_startSequence session.begun rfl
  obtain ⟨_, _, rolled, dropped⟩ := Claims.brings_rollbackStart middle rfl
  rw [sequence] at grows
  cases undone.symm.trans rolled
  rw [dropped]
  exact grows.dropped

theorem start_failed_halts (name : LoopName) :
    (session.watch name).Halted (after.watch name) := by
  obtain ⟨middle, sequence, undone⟩ := exec_start_failed present failed
  have halted : (middle.watch name).Halted (Session.watch name (rollbackStart.exec middle).2) :=
    Watch.takes_rollbackStart middle rfl
  rw [undone] at halted
  obtain ⟨events, grown, -⟩ := ((within_startSequence (F := launching η)).reaches sequence).appends
  have kept : session.begun.trace = session.trace := rfl
  intro live
  have refused := halted live
  simp only [watch, grown, kept, List.countP_append] at refused ⊢
  omega

theorem start_failed_lifecycle : after.device.lifecycle = .present := by
  have starts : session.core.Starts (start.exec session).1 (start.exec session).2.core :=
    leads_start session rfl
  rw [failed] at starts
  exact starts.lifecycle_of_error.trans present

variable {events : List Event} (grown : after.trace.toList = session.trace.toList ++ events)

include grown

theorem start_failed_undone : Undone events := by
  obtain ⟨claimed, appended, undone⟩ := start_failed_undoes present failed
  simp only [claims, grown, List.filter_append, List.append_cancel_left_eq] at appended
  rw [← appended] at undone
  exact (undone.resolve_left Bool.false_ne_true).of_claims

theorem start_failed_refused {name : LoopName} (live : (after.loops.get name).live = true) :
    ∃ tag wait, .stopLoop name tag wait false ∈ events := by
  have refused := start_failed_halts present failed name live
  simp only [watch, grown, List.countP_append, Nat.lt_add_right_iff_pos, List.countP_pos_iff]
    at refused
  obtain ⟨event, member, refuses⟩ := refused
  obtain ⟨tag, wait, rfl⟩ := Event.eq_of_refusesStop refuses
  exact ⟨tag, wait, member⟩

end Failed

/-- A start that fails leaves a present device as it was: present, without configuration, at its
level and with its stamp, and not announced. Each selection was followed by a release, also one that
failed, and only a loop that refused to stop is live. -/
theorem failed_start_rolls_back (key : AdapterKey) (host : η) (store : Store)
    (options : SessionOptions) (happenings : List Happening)
    (reached : (create key host store options).through happenings = session)
    (present : session.device.lifecycle = .present)
    (failed : start.exec session = (.error e, after)) :
    after.device.lifecycle = .present ∧ after.device.configuration = none ∧
      after.device.power.device = session.device.power.device ∧
      after.store.get .deviceStamp = session.store.get .deviceStamp ∧
      ¬ Outstanding after.trace.toList ∧
      ∃ events, after.trace.toList = session.trace.toList ++ events ∧ Undone events ∧
        (∀ identity, .notify (.deviceStarted identity) ∉ events) ∧
        ∀ name, (after.loops.get name).live = true →
          ∃ tag wait, .stopLoop name tag wait false ∈ events := by
  have launched := start_failed_launches present failed
  have record := launching_misses_record.reaches launched
  obtain ⟨events, grown, launches⟩ := launched.appends
  have lifecycle := start_failed_lifecycle present failed
  have consistent : after.possession.Consistent true := by
    have before : session.possession.Consistent true :=
      reached ▸ through_consistent _ happenings true (fun _ => rfl) (create_consistent _ _ _ _ true)
    have started := Possession.maintains_start _ before session rfl
    rwa [failed] at started
  refine ⟨lifecycle, consistent.unconfigured (by rw [possession, lifecycle]; rfl),
    congrArg (·.1.device) record, congrArg Prod.snd record, ?_, events, grown,
    start_failed_undone present failed grown, ?_,
    fun _ live => start_failed_refused present failed grown live⟩
  · have free : Ledger.ofEvents after.trace.toList = .free := consistent.free lifecycle
    rw [← Ledger.held_ofEvents, free]
    exact Bool.false_ne_true
  · intro identity announced
    exact absurd (launches _ announced) Bool.false_ne_true

/-- A second start fails, at its tenth round of resets, of a device that was stopped at D3. -/
theorem failed_start_rolls_back_after_resets :
    let modem := ({} : ScriptedModem).inject .resetPipe
      (.replicate 3 .pass ++ .replicate resetAttempts (.fail .pipe))
    let session := (create ⟨220, 19, 0⟩ modem {} {}).through
      [.operation .start, .operation (.power (.setDevice .d3)), .operation .stop]
    let after := (start.exec session).2
    start.exec session = (.error (.transport .pipe), after) ∧
      after.device.lifecycle = .present ∧ after.device.power.device = .d3 ∧
      after.store.get .deviceStamp = .ok (some (.number 1)) ∧ ¬ Outstanding after.trace.toList := by
  intro modem session after
  have failed : start.exec session = (.error (.transport .pipe), after) :=
    Act.exec_of_result (by decide +kernel)
  obtain ⟨lifecycle, -, level, stamp, released, -⟩ :=
    failed_start_rolls_back _ _ _ _ _ (rfl : _ = session) (by decide +kernel) failed
  exact ⟨failed, lifecycle, level.trans (by decide +kernel), stamp.trans (by decide +kernel),
    released⟩

end Session

end ModemLink
