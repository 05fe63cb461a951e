import ModemLink.Proofs.Session.Outcome
import ModemLink.Proofs.Session.PowerRecord
import ModemLink.Proofs.Session.Quiet

/-!
# Operations on cores

Every function of a session leads from a core to one that its outcomes allow, whatever the host
answers (`Session.after_performs`).
-/

namespace ModemLink

open Act ModemLink.Core

variable {η α β : Type}

namespace Act

variable {act : Act η α} {next : α → Act η β} {c : Core}
  {post : Except DriverError α → Core → Prop} {later : Except DriverError β → Core → Prop}

theorem Leads.andThen (first : act.Leads c post)
    (rest : ∀ a d, post (.ok a) d → (next a).Leads d later)
    (failed : ∀ e d, post (.error e) d → later (.error e) d) : (act >>= next).Leads c later :=
  Takes.andThen first rest failed

theorem Leads.thenSilent {act tail : Act η Unit} {post : Except DriverError Unit → Core → Prop}
    (leads : act.Leads c post) (silent : tail.Silent) : (act >>= fun _ => tail).Leads c post :=
  leads.andThen (fun _ _ reached => silent.leads fun _ => reached) fun _ _ => id

theorem leads_tryCatch {handler : DriverError → Act η α}
    {last : Except DriverError α → Core → Prop} (tried : act.Leads c post)
    (passed : ∀ a d, post (.ok a) d → last (.ok a) d)
    (handled : ∀ e d, post (.error e) d → (handler e).Leads d last) :
    (tryCatch act handler).Leads c last :=
  Takes.tryCatch tried passed handled

/-- A branch that goes on as the other one does once it is through. -/
theorem leads_either {p : Prop} [Decidable p] {first rest : Act η α} (goesOn : rest.Leads c post)
    (through : p → rest.Leads c post → first.Leads c post) :
    (if p then first else rest).Leads c post := by
  split
  · exact through ‹p› goesOn
  · exact goesOn

theorem leads_among {p q : Prop} [Decidable p] [Decidable q] {first second rest : Act η α}
    (goesOn : rest.Leads c post) (first' : rest.Leads c post → first.Leads c post)
    (second' : rest.Leads c post → second.Leads c post) :
    (if p then first else if q then second else rest).Leads c post := by
  split
  · exact first' goesOn
  · exact leads_either goesOn fun _ => second'

theorem leads_attempt_apply {event : LifecycleEvent} {post : Except DriverError Unit → Core → Prop}
    (holds : post (.ok ()) { c with lifecycle := c.lifecycle.advance event }) :
    (attempt (apply event) : Act η Unit).Leads c post := by
  unfold Lifecycle.advance at holds
  refine Leads.attempt (leads_apply ?_ ?_)
  · intro lifecycle moved
    rwa [moved] at holds
  · intro e refused
    rwa [refused] at holds

theorem leads_stopAll [Host η] {read write dispatch interrupt : StopTag}
    {post : Except DriverError Unit → Core → Prop}
    (halted : ∀ d, c.Halts d → post (.ok ()) d) :
    (stopAll read write dispatch interrupt : Act η Unit).Leads c post := by
  refine Leads.bind (leads_attempt_stopLoop fun r => ?_)
  refine Leads.bind (leads_attempt_stopLoop fun w => ?_)
  refine Leads.bind (leads_attempt_stopLoop fun d => ?_)
  exact leads_attempt_stopLoop fun i => halted _ (c.halts_stop_all r w d i)

end Act

namespace Session

variable {c : Core} {post : Except DriverError Unit → Core → Prop}

theorem leads_cancelIdleTimer (holds : post (.ok ()) c.untimed) :
    (cancelIdleTimer : Act η Unit).Leads c post :=
  leads_onPower (fun _ => rfl) holds

theorem leads_clearSuspend (holds : post (.ok ()) c.cleared) :
    (clearSuspend : Act η Unit).Leads c post :=
  leads_onPower (fun _ => rfl) holds

theorem leads_restoreSuspendAllowed
    (holds : post (.ok ()) { c with power.suspendAllowed := c.options.selectiveSuspend }) :
    (restoreSuspendAllowed : Act η Unit).Leads c post := by
  refine leads_get fun session known => ?_
  subst known
  exact leads_onPower (fun _ => rfl) holds

theorem leads_armIdleTimer
    (holds : post (.ok ()) { c with power.idleDeadline :=
      (c.options.idleTimeout.map (c.now + ·)).or c.power.idleDeadline }) :
    (armIdleTimer : Act η Unit).Leads c post := by
  refine leads_get fun session known => ?_
  subst known
  unfold armIdleTimerAt
  refine leads_get fun session' same => ?_
  have options : session'.options = session.options := congrArg Core.options same
  cases timeout : session.options.idleTimeout with
  | none =>
      rw [options, timeout]
      rw [show session.core.options.idleTimeout = none from timeout] at holds
      exact leads_pure holds
  | some timeout' =>
      rw [options, timeout]
      rw [show session.core.options.idleTimeout = some timeout' from timeout] at holds
      exact leads_onPower (fun _ => rfl) holds

theorem checkVeto_low {d : Device} {level : DevicePower} {e : DriverError}
    (vetoed : d.checkVeto level = .error e) : level.isLow = true := by
  unfold Device.checkVeto at vetoed
  by_contra high
  simp [high] at vetoed

theorem leads_recordDevicePower {level : DevicePower}
    {post : Except DriverError (Option PowerSignal) → Core → Prop}
    (recorded : post (.ok (c.signal level)) (c.recorded level))
    (vetoed : ∀ e, level.isLow = true → post (.error e) c) :
    (recordDevicePower level : Act η _).Leads c post := by
  refine silent_device.bind fun d => ?_
  cases verdict : d.checkVeto level with
  | error e => exact leads_throw (vetoed e (checkVeto_low verdict))
  | ok _ =>
      refine Leads.bind (leads_pure ?_)
      rintro session rfl
      have disarmed := session.device.power.disarmed_setDevice level
      have signal : session.core.signal level = (session.device.power.setDevice level).1 :=
        congrArg (·.1) disarmed
      have power : session.core.recorded level =
          { session.core with power := (session.device.power.setDevice level).2.disarmed } := by
        unfold Core.recorded
        rw [show session.core.power = session.device.power.disarmed from rfl, disarmed]
      rwa [signal, power] at recorded

theorem leads_setSystemPower {level : SystemPower}
    (recorded : post (.ok ()) { c with power := c.power.setSystem level }) :
    (setSystemPower level : Act η Unit).Leads c post := by
  refine silent_device.bind fun d => Leads.bind (leads_onPower (·.disarmed_setSystem level) ?_)
  split
  · refine (silent_onQueues _).bind fun _ => ?_
    split
    · exact (silent_notify _).leads fun _ => recorded
    · exact leads_pure recorded
  · exact leads_pure recorded

/-! ## Starting -/

section Host

variable [Host η]

theorem leads_startDataLoops (started : post (.ok ()) c.serving)
    (noRead : ∀ e, post (.error e) c.failStart)
    (noWrite : ∀ e, post (.error e) (c.start .read).failStart) :
    (startDataLoops : Act η Unit).Leads c post :=
  Leads.bind (leads_startLoop (leads_startLoop started noWrite) noRead)

theorem leads_startPipes (started : post (.ok ()) (c.start .interrupt))
    (failed : ∀ e d, c.Tries d → post (.error e) d) : (startPipes : Act η Unit).Leads c post := by
  have untouched : ∀ e, post (.error e) c := fun e => failed e c (.tried _ _ id)
  have unbroken : (startLoop .interrupt : Act η Unit).Leads c post :=
    leads_startLoop started fun e => failed e c.failStart (.tried _ true nofun)
  refine Quiet.bind quiet_resetPipes (fun _ => silent_device.bind fun d => ?_) untouched
  dsimp only
  refine leads_either ?_ fun _ _ => Leads.bind (leads_throw (untouched _))
  split
  · exact (silent_controlOut _).discard.bind fun _ => unbroken
  · exact unbroken

theorem leads_startSequence (started : post (.ok ()) (c.start .dispatch).listening)
    (failed : ∀ e d, c.Tries d → post (.error e) d) :
    (startSequence : Act η Unit).Leads c post := by
  refine Quiet.bind quiet_enumerate (fun _ => ?_) fun e => failed e c (.tried _ _ id)
  refine (silent_onQueues _).bind fun _ => (silent_onStats _).bind fun _ => ?_
  refine Leads.bind (leads_startLoop ?_ fun e => failed e c.failStart (.tried _ true nofun))
  refine leads_device fun d shows => ?_
  rw [shows.mux]
  unfold listening at started
  split <;> rename_i primary
  · rw [if_pos primary] at started
    refine leads_startPipes started ?_
    rintro e _ ⟨live, startFailed, start⟩
    exact failed e _ (.tried live startFailed start)
  · rw [if_neg primary] at started
    exact leads_pure started

theorem leads_rollbackStart
    (halted : ∀ d, c.Halts d → post (.ok ()) { d with lifecycle := c.lifecycle.advance .stop }) :
    (rollbackStart : Act η Unit).Leads c post := by
  refine Leads.bind (leads_stopAll ?_)
  rintro _ ⟨live, startFailed, stopFailed, start, stop⟩
  refine Silent.bind silent_dropConfiguration fun _ => leads_attempt_apply ?_
  exact halted _ (.halted live startFailed stopFailed start stop)

theorem leads_launch (present : c.lifecycle = .present) (started : post (.ok ()) c.launched)
    (undone : ∀ e d, c.Halts d → post (.error e) d) :
    (tryCatch startSequence fun e => do
      rollbackStart
      throw e : Act η Unit).Leads { c with lifecycle := .started false } post := by
  refine Leads.tryCatch (leads_startSequence started ?_)
  rintro e _ ⟨_, tried, try'⟩
  refine Leads.bind (leads_rollbackStart ?_)
  rintro _ ⟨live, startFailed, stopFailed, start, stop⟩
  have halts : c.Halts { c with lifecycle := .present, live, startFailed, stopFailed } := by
    rw [← present]
    exact .halted live startFailed stopFailed (try' ∘ start) stop
  exact leads_throw (undone e _ halts)

theorem leads_startPresent (unstarted : c.lifecycle.isStarted = false) :
    (startPresent : Act η Unit).Leads c c.Starts := by
  unfold startPresent
  refine Leads.bind (leads_apply ?_ ?_)
  · intro lifecycle moved
    obtain ⟨present, rfl⟩ := Lifecycle.next_start moved unstarted
    refine Leads.bind (leads_launch present ?_ fun e d halts => .undone e present halts)
    refine Leads.bind (leads_onPower (fun _ => rfl) ?_)
    refine (quiet_storeIncrement _).attempt.bind fun _ => silent_device.bind fun d => ?_
    exact (silent_notify _).leads fun _ => .begun present
  · intro e refused
    refine .refused e ?_ unstarted
    intro present
    rw [present] at refused
    cases refused

theorem leads_start : (start : Act η Unit).Leads c c.Starts := by
  refine leads_device fun d shows => ?_
  rw [shows.lifecycle]
  cases state : c.lifecycle with
  | started inService => exact leads_pure (.already (by rw [state]; rfl))
  | surpriseRemoved => exact leads_throw (.refused _ (by simp [state]) (by rw [state]; rfl))
  | removed => exact leads_throw (.refused _ (by simp [state]) (by rw [state]; rfl))
  | absent => exact leads_startPresent (by rw [state]; rfl)
  | present => exact leads_startPresent (by rw [state]; rfl)

/-! ## Attaching -/

theorem leads_abandonOpen (attached : c.lifecycle = .started true)
    (abandoned : ∀ ok, post (.ok ()) (c.stop .read ok).detached) :
    (abandonOpen : Act η Unit).Leads c post := by
  refine Leads.bind (leads_attempt_stopLoop fun ok => ?_)
  have lifecycle : (c.stop .read ok).lifecycle.advance .closed = .started false := by
    rw [stop_eq, attached]
    rfl
  refine Leads.bind (leads_attempt_apply ?_)
  rw [lifecycle]
  refine (silent_setInterfaceIdle _).bind fun _ => Leads.bind (leads_restoreSuspendAllowed ?_)
  exact leads_armIdleTimer (abandoned ok)

theorem leads_attach : (attach : Act η Unit).Leads c c.Attaches := by
  refine silent_device.bind fun _ => ?_
  dsimp only
  refine leads_either ?_ fun _ engages => (quiet_resetRole _).bind
    (fun _ => (quiet_resetRole _).bind (fun _ => engages) .refused) .refused
  refine Leads.bind (leads_apply ?_ fun e _ => .refused e)
  intro lifecycle moved
  obtain ⟨free, rfl⟩ := Lifecycle.next_opened moved
  refine Leads.bind (leads_onPower (fun _ => rfl) (Leads.bind (leads_cancelIdleTimer ?_)))
  -- From here on every way back is through `abandonOpen`.
  change Leads _ c.engaged c.Attaches
  refine (silent_setInterfaceIdle _).bind fun _ => (silent_onStats _).bind fun _ =>
    Silent.bind (silent_onDevice fun _ => ⟨rfl, rfl, rfl⟩) fun _ =>
      Leads.bind (Leads.tryCatch (leads_startDataLoops ?_ ?_ ?_))
  · refine (silent_setLineState _ _).bind fun _ => (silent_setLineState _ _).bind fun _ => ?_
    exact leads_cancelIdleTimer (.attached free)
  · exact fun e => Leads.bind (leads_abandonOpen rfl fun ok => leads_throw (.noRead e free ok))
  · exact fun e => Leads.bind (leads_abandonOpen rfl fun ok => leads_throw (.noWrite e free ok))

/-! ## Power transitions -/

theorem leads_listen {rest : Act η Unit} (goesOn : rest.Leads c.listening post)
    (failed : ∀ e, c.mux.isPrimary = true → post (.error e) c.failStart) :
    (if c.mux.isPrimary then do startLoop .interrupt; rest else rest).Leads c post := by
  unfold listening at goesOn
  split <;> rename_i primary
  · rw [if_pos primary] at goesOn
    exact Leads.bind (leads_startLoop goesOn fun e => failed e primary)
  · rwa [if_neg primary] at goesOn

theorem leads_disarm (cleared : post (.ok ()) c.cleared) : (do
    setWaitWake false
    clearSuspend : Act η Unit).Leads c post :=
  (silent_setWaitWake _).bind fun _ => leads_clearSuspend cleared

theorem leads_resumeDataPath : (resumeDataPath : Act η Unit).Leads c c.Resumes := by
  have lifecycle : c.listening.lifecycle = c.lifecycle := by
    unfold listening
    split <;> rfl
  refine (silent_setInterfaceIdle _).bind fun _ => leads_device fun d shows => ?_
  rw [shows.mux]
  dsimp only
  refine leads_listen (leads_device fun d shows => ?_) .noInterrupt
  rw [shows.lifecycle, lifecycle]
  split <;> rename_i inService
  · refine Leads.bind (leads_startDataLoops ?_ (fun e => .noRead e inService) fun e =>
      .noWrite e inService)
    exact (silent_kickLoop _).bind fun _ => leads_disarm (.attended inService)
  · exact leads_disarm (.unattended (by simpa using inService))

theorem leads_stopDataPath {cancelWaitWake : Bool} {tags : PowerStopTags}
    (quiesced : ∀ d, c.Quiesces d → post (.ok ()) d) :
    (stopDataPath cancelWaitWake tags : Act η Unit).Leads c post := by
  refine leads_device fun d shows => ?_
  dsimp only
  rw [shows.lowPowerMode]
  split <;> rename_i low
  · exact leads_pure (quiesced _ (.already low))
  refine Leads.bind (leads_onPower (fun _ => rfl) ?_)
  refine leads_among ?_ (fun rest => (silent_setWaitWake _).bind fun _ => rest) fun rest =>
    (silent_setWaitWake _).bind fun _ => rest
  refine (silent_setInterfaceIdle _).bind fun _ =>
    leads_either ?_ fun _ rest => (silent_setLineState _ _).bind fun _ => rest
  refine Leads.bind (leads_attempt_stopLoop fun r => Leads.bind (leads_attempt_stopLoop fun w =>
    Leads.bind (leads_attempt_stopLoop fun i => ?_)))
  refine Silent.leads (silent_onDevice fun _ => ⟨rfl, rfl, rfl⟩) fun _ => ?_
  exact quiesced _ (.stopped (by simpa using low) r w i)

/-- The way from a device whose loops were stopped to a started one, and on with `tail`. -/
theorem leads_restart {d : Core} {lifecycle : Lifecycle} {tail : Act η Unit}
    (started : lifecycle.isPresent = true → ∀ f, d.vacated.Starts (.ok ()) f → tail.Leads f post)
    (lost : lifecycle.isPresent = true → ∀ e f, d.vacated.Starts (.error e) f → post (.error e) f)
    (refused : ∀ e, lifecycle.next .stop = .error e → post (.error e) { d with lifecycle }) : (do
      releaseInterfaces
      apply .stop
      clearSuspend
      attempt (storeIncrement .ssrCounter)
      start
      tail : Act η Unit).Leads { d with lifecycle } post := by
  refine Silent.bind silent_releaseInterfaces fun _ => Leads.bind (leads_apply ?_ refused)
  intro _ moved
  have there := Lifecycle.isPresent_of_next_stop moved
  cases Lifecycle.next_stop moved
  refine Leads.bind (leads_clearSuspend ?_)
  refine (quiet_storeIncrement _).attempt.bind fun _ => ?_
  exact Leads.andThen leads_start (fun _ => started there) (lost there)

theorem leads_reinit : (reinit : Act η Unit).Leads c c.Reinitializes := by
  refine leads_device fun d shows => ?_
  rw [shows.lifecycle]
  dsimp only
  refine Leads.bind (leads_stopAll ?_)
  rintro _ ⟨live, startFailed, stopFailed, start, stop⟩
  have halts : c.Halts { c with live, startFailed, stopFailed } :=
    .halted live startFailed stopFailed start stop
  cases inService : c.lifecycle.inService with
  | true =>
      have attached := Lifecycle.inService_iff.mp inService
      have closed : c.lifecycle.next .closed = .ok (.started false) := by
        rw [attached]
        rfl
      refine Leads.bind (leads_apply ?_ fun e refused => ?_)
      · intro _ moved
        cases moved.symm.trans closed
        exact leads_restart
          (fun _ _ starts => Leads.imp leads_attach fun _ _ => .attended inService halts starts)
          (fun _ e _ starts => .lost e halts starts (by rw [attached]; rfl)) nofun
      · cases refused.symm.trans closed
  | false =>
      simp only [Bool.false_eq_true, if_false]
      refine leads_restart (d := { c with live, startFailed, stopFailed })
        (fun there _ starts => leads_pure (.unattended inService halts starts there))
        (fun there e _ starts => .lost e halts starts there) fun e refused => ?_
      obtain ⟨away, unstarted⟩ := Lifecycle.next_stop_refused refused
      exact .refused e away unstarted halts

theorem leads_setDevicePower {level : DevicePower} :
    (setDevicePower level : Act η Unit).Leads c (c.SetsDevice level) := by
  have report : ∀ disposition : PowerDisposition,
      (if disposition = .forward then notify (.powerStateChanged level) else pure () :
        Act η Unit).Silent := by
    intro disposition
    split
    · exact silent_notify _
    · exact silent_pure _
  refine (silent_filterRequest _).bind fun disposition => ?_
  refine Leads.bind (leads_recordDevicePower ?_ .vetoed)
  cases signal : c.signal level with
  | none =>
      refine silent_device.bind fun d => ?_
      dsimp only
      refine leads_either ?_ fun _ rest => (silent_setWaitWake _).bind fun _ => rest
      exact (report _).leads fun _ => .recorded signal
  | some signal' => cases signal' with
    | standby =>
        refine silent_device.bind fun d => Leads.thenSilent (leads_stopDataPath ?_) (report _)
        exact fun d => .standby signal
    | wakeup =>
        exact (Leads.imp leads_resumeDataPath fun _ _ => .wakeup signal).thenSilent (report _)
    | wakeupReset =>
        have reinitializes : (reinit : Act η Unit).Leads (c.recorded level)
            (c.SetsDevice level) := Leads.imp leads_reinit fun _ _ => .reset signal
        exact reinitializes.thenSilent (report _)

theorem leads_handlePower {request : PowerRequest} :
    (handlePower request : Act η Unit).Leads c (c.HandlesPower request) := by
  cases request with
  | queryDevice level =>
      exact silent_device.bind fun d => (quiet_orThrow _).leads (.queryDevice level)
  | querySystem level => exact leads_pure (.querySystem level)
  | setSystem level => exact leads_setSystemPower (.setSystem level)
  | setDevice level => exact Leads.imp leads_setDevicePower fun _ _ => .setDevice

theorem leads_ensureAwake : (ensureAwake : Act η Unit).Leads c c.Wakes := by
  refine leads_device fun d shows => ?_
  rw [shows.level]
  split <;> rename_i high
  · exact leads_pure (.awake (by simpa using high))
  · refine (quiet_requestSelfPower _).bind (fun handle => ?_) .exhausted
    refine leads_tryCatch leads_setDevicePower (fun _ _ => .woken (by simpa using high)) ?_
    intro e d sets
    refine (silent_cancelRequest _).discard.bind fun _ => leads_throw ?_
    exact .woken (by simpa using high) sets

/-! ## Operations -/

theorem leads_open : («open» : Act η Unit).Leads c c.Opens := by
  refine leads_device fun d shows => ?_
  rw [shows.lifecycle]
  split <;> rename_i state
  · exact leads_throw (.refused _)
  · refine Leads.andThen leads_ensureAwake ?_ fun e _ => .asleep e state
    exact fun _ d wakes => Leads.imp leads_attach fun _ _ => .awake state wakes
  · exact leads_throw (.refused _)

theorem leads_close {post : Except DriverError Unit → Core → Prop}
    (closed : ∀ d, c.Closes d → post (.ok ()) d) : (close : Act η Unit).Leads c post := by
  refine leads_device fun d shows => ?_
  rw [shows.lifecycle]
  cases inService : c.lifecycle.inService with
  | false => exact leads_pure (closed c (.unattended inService))
  | true =>
      have attached := Lifecycle.inService_iff.mp inService
      refine (silent_setLineState _ _).bind fun _ => Leads.bind (leads_attempt_stopLoop fun w =>
        Leads.bind (leads_attempt_stopLoop fun r => ?_))
      have closing : ((c.stop .write w).stop .read r).lifecycle.next .closed =
          .ok (.started false) := by
        simp only [stop_eq, attached]
        rfl
      refine Leads.bind (leads_apply ?_ fun e refused => ?_)
      · intro _ moved
        cases moved.symm.trans closing
        refine (silent_onQueues _).bind fun _ =>
          Silent.bind (silent_onDevice fun _ => ⟨rfl, rfl, rfl⟩) fun _ =>
            (silent_setInterfaceIdle _).bind fun _ => Leads.bind (leads_restoreSuspendAllowed ?_)
        exact leads_armIdleTimer (closed _ (.detached attached w r))
      · cases refused.symm.trans closing

theorem leads_stop : (stop : Act η Unit).Leads c c.Stops := by
  refine Leads.bind (leads_close fun d closes => ?_).attempt
  refine Leads.bind (leads_stopAll ?_)
  rintro _ ⟨live, startFailed, stopFailed, start, stop⟩
  have halts : d.Halts { d with live, startFailed, stopFailed } :=
    .halted live startFailed stopFailed start stop
  refine Silent.bind silent_dropConfiguration fun _ => Leads.bind (leads_cancelIdleTimer ?_)
  refine leads_apply ?_ fun e refused => ?_
  · intro _ moved
    have there := Lifecycle.isPresent_of_next_stop moved
    cases Lifecycle.next_stop moved
    exact .stopped closes halts there
  · obtain ⟨away, unstarted⟩ := Lifecycle.next_stop_refused refused
    exact .refused e closes halts away unstarted

theorem leads_surpriseRemove (removed : ∀ d, c.SurpriseRemoves d → post (.ok ()) d) :
    (surpriseRemove : Act η Unit).Leads c post := by
  refine Leads.bind (leads_attempt_apply (Leads.bind (leads_stopAll fun d halts => ?_)))
  refine (silent_onQueues _).bind fun _ =>
    Silent.bind (silent_onDevice fun _ => ⟨rfl, rfl, rfl⟩) fun _ => ?_
  refine Leads.bind (leads_cancelIdleTimer ?_)
  exact (silent_notify _).leads fun _ => removed _ (.removed halts)

theorem leads_shutdown (removed : ∀ d, c.ShutsDown d → post (.ok ()) d) :
    (shutdown : Act η Unit).Leads c post := by
  refine Leads.bind (leads_close fun d closes => ?_).attempt
  refine Leads.bind (leads_stopAll fun f halts => ?_)
  refine Silent.bind silent_dropConfiguration fun _ => leads_attempt_apply ?_
  rw [Lifecycle.advance_remove]
  exact removed _ (.removed closes halts)

theorem idleExpired_high {d : Device} {now : Nat} (expired : d.idleExpired now = true) :
    d.power.device.isLow = false := by
  simp only [Device.idleExpired, Bool.and_eq_true, Bool.not_eq_eq_eq_not, Bool.not_true] at expired
  exact expired.1.1.2

theorem leads_pollIdle {now : Nat} : (pollIdle now : Act η Bool).Leads c c.PollsIdle := by
  refine leads_device fun d shows => ?_
  split <;> rename_i expired
  · exact leads_pure .kept
  have high : c.power.device.isLow = false := by
    rw [← shows.level]
    exact idleExpired_high (by simpa using expired)
  refine Leads.bind (Leads.bind (leads_cancelIdleTimer ?_))
  refine Leads.bind (leads_onPower (fun _ => rfl) ?_)
  refine (quiet_requestSelfPower _).bind (fun handle => ?_) fun e => .exhausted e high
  refine Leads.tryCatch (Leads.imp leads_setDevicePower ?_)
  intro result d sets
  cases result with
  | ok _ => exact leads_pure (.suspended high sets)
  | error e =>
      refine (silent_cancelRequest _).discard.bind fun _ => ?_
      exact Leads.bind (leads_onPower (fun _ => rfl) (leads_throw (.failed e high sets)))

theorem leads_send {channel : Channel} {payload : Bytes} :
    (send channel payload : Act η Unit).Leads c c.Sends := by
  refine leads_device fun d shows => ?_
  rw [shows.lifecycle]
  dsimp only
  split <;> rename_i attached
  · exact Leads.bind (leads_throw (.refused _))
  replace attached : c.lifecycle.inService = true := by simpa using attached
  refine Leads.andThen leads_ensureAwake (fun _ d wakes => silent_device.bind fun _ => ?_)
    fun e _ => .asleep e attached
  have sent : (kickLoop .write : Act η Unit).Leads d c.Sends :=
    (silent_kickLoop _).leads fun _ => .sent attached wakes
  split
  · split
    · refine (silent_pure _).bind fun _ => ?_
      split <;> exact (silent_onQueues _).bind fun _ => sent
    · exact leads_throw (.unframed _ attached wakes)
  · refine (silent_pure _).bind fun _ => ?_
    split <;> exact (silent_onQueues _).bind fun _ => sent

end Host

end Session

section Host

variable [Host η]

theorem Operation.leads_perform (operation : Operation) (c : Core) :
    (operation.perform : Act η Unit).Leads c fun _ d => c.Performs operation d := by
  cases operation with
  | start => exact Leads.imp Session.leads_start fun result _ starts => ⟨result, starts⟩
  | «open» => exact Leads.imp Session.leads_open fun result _ opens => ⟨result, opens⟩
  | close => exact Session.leads_close fun _ => id
  | stop => exact Leads.imp Session.leads_stop fun result _ stops => ⟨result, stops⟩
  | surpriseRemove => exact Session.leads_surpriseRemove fun _ => id
  | shutdown => exact Session.leads_shutdown fun _ => id
  | send channel payload => exact Leads.imp Session.leads_send fun result _ sends => ⟨result, sends⟩
  | pollIdle now =>
      refine Leads.discard (Leads.imp Session.leads_pollIdle ?_)
      rintro (e | _) d polls
      · exact ⟨_, polls⟩
      · exact ⟨_, polls⟩
  | power request =>
      exact Leads.imp Session.leads_handlePower fun result _ handles => ⟨result, handles⟩

namespace Session

/-- An operation takes the core of a session to one that its outcomes allow. -/
theorem after_performs (session : Session η) (operation : Operation) :
    session.core.Performs operation (session.after operation).core :=
  operation.leads_perform session.core session rfl

end Session

end Host

end ModemLink
