import ModemLink.Proofs.Session.IdleTimer
import ModemLink.Proofs.Session.Reporting

/-!
# The veto

While the system is awake a device that is in use, busy or not allowed to suspend refuses the low
levels, and stays as it is. Any other request for a low level is carried out.
-/

namespace ModemLink

open Act Footprint

/-! ## The verdict -/

namespace Device

/-- No low level is accepted. -/
def Refuses (d : Device) : Prop :=
  d.power.system.isAwake = true ∧
    (d.lifecycle.inService = true ∨ d.ioBusy ≠ 0 ∨ d.power.suspendAllowed = false)

instance (d : Device) : Decidable d.Refuses := inferInstanceAs (Decidable (_ ∧ _))

variable {d : Device} {level : DevicePower}

theorem vetoReason?_isSome : d.vetoReason?.isSome = true ↔
    d.lifecycle.inService = true ∨ d.ioBusy ≠ 0 ∨ d.power.suspendAllowed = false := by
  unfold vetoReason?
  split <;> rename_i attached
  · simp [attached]
  · split <;> rename_i busy
    · simp_all
    · split <;> simp_all

theorem checkVeto_refuses (low : level.isLow = true) (refuses : d.Refuses) :
    ∃ reason, d.checkVeto level = .error (.powerVeto reason) := by
  obtain ⟨reason, known⟩ := Option.isSome_iff_exists.mp (vetoReason?_isSome.mpr refuses.2)
  exact ⟨s!"{level.name}: {reason}", by simp [checkVeto, low, refuses.1, known]⟩

theorem checkVeto_accepts (accepts : ¬ d.Refuses) : d.checkVeto level = .ok () := by
  unfold checkVeto
  split <;> rename_i asks
  · obtain ⟨-, awake⟩ := Bool.and_eq_true_iff.mp asks
    have none : d.vetoReason? = none := by
      rw [← Option.not_isSome_iff_eq_none, vetoReason?_isSome]
      exact fun reason => accepts ⟨awake, reason⟩
    rw [none]
  · rfl

end Device

/-- A low level quiesces the data path, unless that has been done. -/
theorem PowerRecord.setDevice_signal_low {p : PowerRecord} {level : DevicePower}
    (low : level.isLow = true) :
    (p.setDevice level).1 = if p.device.isLow then none else some .standby := by
  have partial' : level ≠ .d0 := by
    rintro rfl
    cases low
  rw [setDevice_signal, if_neg partial']
  cases p.device.isLow <;> simp [low]

/-- The operation may take the device to a low level. -/
def Operation.lowers : Operation → Bool
  | .pollIdle _ => true
  | .power (.setDevice level) => level.isLow
  | _ => false

namespace Core

variable {c d : Core} {level : DevicePower} {result : Except DriverError Unit}

/-! ## Levels -/

theorem SetsDevice.high (target : level.isLow = false) (high : c.power.device.isLow = false)
    (sets : c.SetsDevice level result d) : d.power.device.isLow = false := by
  cases sets with
  | vetoed => exact high
  | recorded silent => rwa [recorded_device]
  | standby signal quiesces => exact absurd (target.symm.trans (signal_standby signal).1) nofun
  | wakeup signal resumes => rwa [resumes.device, recorded_device]
  | reset signal reinitializes => exact reinitializes.high (by rwa [recorded_device])

theorem Wakes.stays_high (high : c.power.device.isLow = false) (wakes : c.Wakes result d) :
    d.power.device.isLow = false := by
  cases wakes with
  | awake | exhausted => exact high
  | woken low => exact absurd (high.symm.trans low) nofun

theorem Closes.device (closes : c.Closes d) : d.power.device = c.power.device := by
  cases closes with
  | unattended => rfl
  | detached attached write read =>
      simp only [stop_eq]
      rfl

theorem Performs.high {operation : Operation} (high : c.power.device.isLow = false)
    (keeps : operation.lowers = false) (performs : c.Performs operation d) :
    d.power.device.isLow = false := by
  cases operation with
  | start =>
      obtain ⟨result, starts⟩ := performs
      exact starts.high high
  | «open» =>
      obtain ⟨result, opens⟩ := performs
      cases opens with
      | refused => exact high
      | asleep e free wakes => exact wakes.stays_high high
      | awake free wakes attaches =>
          rw [attaches.device]
          exact wakes.stays_high high
  | close => rwa [show d.power.device = _ from performs.device]
  | stop =>
      obtain ⟨result, stops⟩ := performs
      cases stops with
      | refused e closes halts | stopped closes halts =>
          rw [← closes.device, ← halts.power] at high
          exact high
  | surpriseRemove =>
      cases performs with
      | removed halts =>
          exact (congrArg (·.device.isLow) halts.power).trans high
  | shutdown =>
      obtain ⟨closes, halts⟩ := performs
      rw [← closes.device, ← halts.power] at high
      exact high
  | send channel payload =>
      obtain ⟨result, sends⟩ := performs
      cases sends with
      | refused => exact high
      | asleep e attached wakes | unframed e attached wakes | sent attached wakes =>
          exact wakes.stays_high high
  | pollIdle now => cases keeps
  | power request =>
      obtain ⟨result, handles⟩ := performs
      cases handles with
      | queryDevice | querySystem => exact high
      | setSystem level => rwa [PowerRecord.setSystem_device]
      | setDevice sets => exact sets.high keeps high

end Core

namespace Session

variable {η : Type} {session : Session η} {level : DevicePower} {capacity : Nat}

/-! ## Requests -/

/-- The session once a request for the level was looked up in the pool. -/
def filtered (session : Session η) (level : DevicePower) : Session η :=
  { session with device.pool := (session.device.pool.filter (.setDevice level)).2 }

theorem exec_filter (session : Session η) (level : DevicePower) :
    (filterRequest (.setDevice level) : Act η _).exec session =
      (.ok (session.device.pool.filter (.setDevice level)).1, session.filtered level) := rfl

theorem filtered_of_rests (rests : session.device.pool.Rests capacity) :
    session.filtered level = session := by
  rw [filtered, rests.filter]

theorem exec_recordDevicePower (accepted : session.device.checkVeto level = .ok ()) :
    (recordDevicePower level : Act η _).exec session =
      (.ok (session.device.power.setDevice level).1,
        { session with device.power := (session.device.power.setDevice level).2 }) := by
  unfold recordDevicePower
  rw [exec_bind_ok (exec_device session), accepted]
  rfl

theorem exec_recordDevicePower_vetoed {e : DriverError}
    (vetoed : session.device.checkVeto level = .error e) :
    (recordDevicePower level : Act η _).exec session = (.error e, session) := by
  unfold recordDevicePower
  rw [exec_bind_ok (exec_device session), vetoed]
  rfl

theorem traffic_misses_power [Host η] :
    traffic.Misses fun session : Session η => session.device.power := by
  intro change s t allowed makes
  cases makes with
  | host | event | queues | details => rfl
  | _ => cases allowed

section Host

variable [Host η]

theorem exec_setDevice_vetoed {e : DriverError} (vetoed : session.device.checkVeto level = .error e) :
    (setDevicePower level : Act η Unit).exec session = (.error e, session.filtered level) := by
  have vetoed : (session.filtered level).device.checkVeto level = .error e := vetoed
  unfold setDevicePower
  rw [exec_bind_ok (exec_filter session level), exec_bind, exec_recordDevicePower_vetoed vetoed]

/-- A low level that is not vetoed is carried out, whatever the host answers. -/
theorem exec_setDevice_low (low : level.isLow = true)
    (accepted : session.device.checkVeto level = .ok ()) :
    ((setDevicePower level : Act η Unit).exec session).1 = .ok () := by
  have accepted : (session.filtered level).device.checkVeto level = .ok () := accepted
  unfold setDevicePower
  rw [exec_bind_ok (exec_filter session level), exec_bind_ok (exec_recordDevicePower accepted),
    PowerRecord.setDevice_signal_low low]
  -- What remains cannot fail, from whichever core.
  refine (?_ : Leads _ _ fun result _ => result = .ok ()) _ rfl
  generalize (session.device.pool.filter (.setDevice level)).1 = disposition
  have reported : (report disposition level : Act η Unit).Silent := by
    unfold report
    split
    · exact silent_notify _
    · exact silent_pure ()
  cases (session.filtered level).device.power.device.isLow with
  | true =>
      simp only [if_true]
      refine silent_device.bind fun d => leads_either ?_ fun _ rest =>
        (silent_setWaitWake _).bind fun _ => rest
      exact reported.leads fun _ => rfl
  | false =>
      simp only [if_false, Bool.false_eq_true]
      exact silent_device.bind fun d => Leads.thenSilent (leads_stopDataPath fun _ _ => rfl) reported

theorem exec_query (session : Session η) (level : DevicePower) :
    (handlePower (.queryDevice level) : Act η Unit).exec session =
      (session.device.checkVeto level, session) := by
  unfold handlePower
  rw [exec_bind_ok (exec_device session)]
  cases session.device.checkVeto level <;> rfl

/-- The verdict on a request for a low level, which a query gives as well. -/
theorem exec_setDevice_verdict (rests : session.device.pool.Rests capacity)
    (low : level.isLow = true) :
    (session.device.Refuses → ∃ reason,
      (setDevicePower level : Act η Unit).exec session = (.error (.powerVeto reason), session) ∧
      (handlePower (.queryDevice level) : Act η Unit).exec session =
        (.error (.powerVeto reason), session)) ∧
    (¬ session.device.Refuses →
      ((setDevicePower level : Act η Unit).exec session).1 = .ok () ∧
      (handlePower (.queryDevice level) : Act η Unit).exec session = (.ok (), session)) := by
  rw [exec_query]
  refine ⟨fun refuses => ?_, fun accepts => ?_⟩
  · obtain ⟨reason, vetoed⟩ := Device.checkVeto_refuses low refuses
    refine ⟨reason, ?_, by rw [vetoed]⟩
    rw [exec_setDevice_vetoed vetoed, filtered_of_rests rests]
  · have accepted : session.device.checkVeto level = .ok () := Device.checkVeto_accepts accepts
    exact ⟨exec_setDevice_low low accepted, by rw [accepted]⟩

/-! ## Levels along a run -/

/-- Awake, the device is lowered only without a client and with no transfer under way. -/
theorem next_low (rests : session.device.pool.Rests capacity) (happening : Happening)
    (awake : session.device.power.system.isAwake = true)
    (high : session.device.power.device.isLow = false)
    (falls : (session.next happening).device.power.device.isLow = true) :
    session.device.lifecycle.inService = false ∧ session.device.ioBusy = 0 := by
  have stays (same : (session.next happening).device.power = session.device.power) : False := by
    rw [same, high] at falls
    cases falls
  obtain same | ⟨operation, rfl⟩ := next_of_misses traffic_misses_power session happening
  · exact (stays same).elim
  · cases lowers : operation.lowers with
    | false =>
        have performs := session.after_performs operation
        exact absurd (falls.symm.trans (performs.high high lowers)) nofun
    | true =>
        cases operation with
        | pollIdle now =>
            cases expired : session.device.idleExpired now with
            | true =>
                simp only [Device.idleExpired, Bool.and_eq_true, Bool.not_eq_eq_eq_not,
                  Bool.not_true, beq_iff_eq] at expired
                exact ⟨expired.1.2, expired.2⟩
            | false =>
                have kept : session.next (.operation (.pollIdle now)) = session := by
                  change ((discard (pollIdle now) : Act η Unit).exec session).2 = session
                  exact congrArg Prod.snd (exec_bind_ok (exec_pollIdle_unexpired expired))
                exact (stays (by rw [kept])).elim
        | power request =>
            cases request with
            | setDevice level =>
                obtain ⟨vetoes, -⟩ := exec_setDevice_verdict rests lowers
                by_cases refuses : session.device.Refuses
                · obtain ⟨reason, vetoed, -⟩ := vetoes refuses
                  exact (stays (congrArg (·.2.device.power) vetoed)).elim
                · have accepts := not_and.mp refuses awake
                  simp only [not_or, Bool.not_eq_true, ne_eq, not_not] at accepts
                  exact ⟨accepts.1, accepts.2.1⟩
            | _ => cases lowers
        | _ => cases lowers

/-- In any session a request for a low level is vetoed exactly if the system is awake and the device
has a client, a transfer under way or no permission to suspend; it then changes nothing and calls
nobody. A query gives the same verdict. Awake, no level is lowered past a client or a transfer. -/
theorem low_levels_are_vetoed (key : AdapterKey) (host : η) (store : Store)
    (options : SessionOptions) (happenings : List Happening) {session : Session η}
    (reached : (create key host store options).through happenings = session) :
    (∀ level : DevicePower, level.isLow = true →
      (session.device.Refuses → ∃ reason,
        (handlePower (.setDevice level) : Act η Unit).exec session =
          (.error (.powerVeto reason), session) ∧
        (handlePower (.queryDevice level) : Act η Unit).exec session =
          (.error (.powerVeto reason), session)) ∧
      (¬ session.device.Refuses →
        ((handlePower (.setDevice level) : Act η Unit).exec session).1 = .ok () ∧
        (handlePower (.queryDevice level) : Act η Unit).exec session = (.ok (), session))) ∧
    ∀ happening, session.device.power.system.isAwake = true →
      session.device.power.device.isLow = false →
      (session.next happening).device.power.device.isLow = true →
      session.device.lifecycle.inService = false ∧ session.device.ioBusy = 0 := by
  have rests : session.device.pool.Rests options.requestPool :=
    reached ▸ through_rests key host store options happenings
  exact ⟨fun level low => exec_setDevice_verdict rests low, next_low rests⟩

/-- A started device refuses D2 while a transfer is under way, and takes it once that is over. -/
theorem low_levels_are_vetoed_while_busy :
    let busy := (create ⟨220, 16, 0⟩ ({} : ScriptedModem) {} {}).through
      [.operation .start, .transfers 1]
    let rested := (create ⟨220, 16, 0⟩ ({} : ScriptedModem) {} {}).through
      [.operation .start, .transfers 1, .transfers 0]
    (∃ reason, (handlePower (.setDevice .d2)).exec busy = (.error (.powerVeto reason), busy)) ∧
      ((handlePower (.setDevice .d2)).exec rested).1 = .ok () ∧
      rested.device.lifecycle.inService = false ∧ rested.device.ioBusy = 0 := by
  intro busy rested
  obtain ⟨verdict, -⟩ := low_levels_are_vetoed _ _ _ _ _ (rfl : _ = busy)
  obtain ⟨verdict', lowered⟩ := low_levels_are_vetoed _ _ _ _ _ (rfl : _ = rested)
  obtain ⟨reason, vetoed, -⟩ := (verdict .d2 rfl).1 (by decide +kernel)
  obtain ⟨accepted, -⟩ := (verdict' .d2 rfl).2 (by decide +kernel)
  exact ⟨⟨reason, vetoed⟩, accepted, lowered (.operation (.power (.setDevice .d2)))
    (by decide +kernel) (by decide +kernel) (by decide +kernel)⟩

end Host

end Session

end ModemLink
