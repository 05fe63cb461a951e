import ModemLink.Proofs.Session.Invariant
import ModemLink.Scripted

/-!
# Loops of a device that is not started

No service loop is live outside of the started states, unless the interrupt loop of a device that is
not started is resumed by a power request.
-/

namespace ModemLink

namespace Core

/-- The stop that led to a low level is on record, and no loop is live unless started. -/
structure Rests (c : Core) : Prop where
  low : c.power.device.isLow = true → c.power.powerSuspended = true
  flag : c.power.lowPowerMode = true → c.power.powerSuspended = true
  loops : c.stopFailed = false → c.lifecycle.isStarted = false → ∀ name, c.live name = false

namespace Rests

variable {c d : Core} {level : DevicePower} {result : Except DriverError Unit}

/-! ## One case for each outcome -/

/-- With all loops stopped the lifecycle may be any. -/
theorem halted {before : Lifecycle}
    (low : c.power.device.isLow = true → c.power.powerSuspended = true)
    (flag : c.power.lowPowerMode = true → c.power.powerSuspended = true)
    (halts : ({ c with lifecycle := before } : Core).Halts d) (lifecycle : Lifecycle) :
    ({ d with lifecycle } : Core).Rests := by
  obtain ⟨live, startFailed, stopFailed, start, stop⟩ := halts
  exact ⟨low, flag, fun stopped _ => (stop stopped).2⟩

theorem halts (rests : c.Rests) (halts : c.Halts d) : d.Rests :=
  halted rests.low rests.flag halts d.lifecycle

/-- A started device may run any loop. -/
theorem ofStarted (low : c.power.device.isLow = true → c.power.powerSuspended = true)
    (flag : c.power.lowPowerMode = true → c.power.powerSuspended = true)
    (started : c.lifecycle.isStarted = true) : c.Rests :=
  ⟨low, flag, fun _ unstarted => absurd (started.symm.trans unstarted) nofun⟩

theorem starts (rests : c.Rests) (starts : c.Starts result d) : d.Rests := by
  cases starts with
  | already | refused => exact rests
  | undone e present halts => exact rests.halts halts
  | begun present =>
      rw [begun_eq]
      exact ofStarted nofun rests.flag rfl

theorem attaches (rests : c.Rests) (attaches : c.Attaches result d) : d.Rests := by
  cases attaches with
  | refused => exact rests
  | attached free => exact ofStarted rests.low rests.flag rfl
  | noRead e free ok | noWrite e free ok =>
      rw [stop_eq]
      exact ofStarted rests.low rests.flag rfl

theorem stop {name : LoopName} {ok : Bool} (rests : c.Rests) : (c.stop name ok).Rests := by
  rw [stop_eq]
  refine ⟨rests.low, rests.flag, fun stopped unstarted other => ?_⟩
  have down := rests.loops (Bool.or_eq_false_iff.mp stopped).1 unstarted
  cases ok with
  | false => exact down other
  | true => by_cases same : other = name <;> simp [same, down]

theorem quiesces (flag : c.power.lowPowerMode = true → c.power.powerSuspended = true)
    (loops : c.stopFailed = false → c.lifecycle.isStarted = false → ∀ name, c.live name = false)
    (quiesces : c.Quiesces d) : d.Rests := by
  cases quiesces with
  | already low => exact ⟨fun _ => flag low, flag, loops⟩
  | stopped high read write interrupt =>
      have suspending : c.suspending.Rests := ⟨fun _ => rfl, fun _ => rfl, loops⟩
      exact suspending.stop.stop.stop

/-- Resuming starts the interrupt loop of the USB function whether or not the device is started. -/
theorem resumes (rests : c.Rests) (high : c.power.device.isLow = false)
    (safe : c.mux.isPrimary = true → c.lifecycle.isStarted = true)
    (resumes : c.Resumes result d) : d.Rests := by
  have low {p : Prop} (low : c.power.device.isLow = true) : p :=
    absurd (high.symm.trans low) nofun
  cases resumes with
  | noInterrupt e primary => exact ⟨rests.low, rests.flag, rests.loops⟩
  | noRead e attached | noWrite e attached =>
      rw [listening_eq]
      exact ofStarted rests.low rests.flag (Lifecycle.isStarted_of_inService attached)
  | attended attached =>
      rw [listening_eq]
      exact ofStarted low nofun (Lifecycle.isStarted_of_inService attached)
  | unattended free =>
      rw [listening_eq]
      refine ⟨low, nofun, fun stopped unstarted name => ?_⟩
      have away : c.mux.isPrimary = false :=
        Bool.eq_false_iff.mpr fun primary => absurd ((safe primary).symm.trans unstarted) nofun
      simpa [cleared, away] using rests.loops stopped unstarted name

theorem reinitializes (rests : c.Rests) (high : c.power.device.isLow = false)
    (reinitializes : c.Reinitializes result d) : d.Rests := by
  have vacated {f : Core} (halts : c.Halts f) : f.vacated.Rests := by
    obtain ⟨live, startFailed, stopFailed, start, stop⟩ := halts
    exact ⟨fun low => absurd (high.symm.trans low) nofun, nofun, fun stopped _ => (stop stopped).2⟩
  cases reinitializes with
  | refused e away unstarted halts => exact rests.halts halts
  | lost e halts starts => exact (vacated halts).starts starts
  | unattended free halts starts => exact (vacated halts).starts starts
  | attended attached halts starts attaches =>
      exact ((vacated halts).starts starts).attaches attaches

theorem recorded (rests : c.Rests) (kept : level.isLow = true → c.power.device.isLow = true) :
    (c.recorded level).Rests where
  low low := by
    rw [recorded_device] at low
    rw [recorded_powerSuspended]
    exact rests.low (kept low)
  flag := by
    rw [recorded_lowPowerMode, recorded_powerSuspended]
    exact rests.flag
  loops := rests.loops

theorem setsDevice (rests : c.Rests)
    (safe : level = .d0 → c.mux.isPrimary = true → c.power.device.isLow = true →
      c.power.idleSuspended = true → c.lifecycle.isStarted = true)
    (sets : c.SetsDevice level result d) : d.Rests := by
  have woken : (c.recorded .d0).Rests := rests.recorded fun low => absurd low nofun
  cases sets with
  | vetoed e low => exact rests
  | recorded silent => exact rests.recorded (signal_none silent).1
  | standby signal quiesces =>
      have flag : (c.recorded level).power.lowPowerMode = true →
          (c.recorded level).power.powerSuspended = true := by
        rw [recorded_lowPowerMode, recorded_powerSuspended]
        exact rests.flag
      exact .quiesces flag rests.loops quiesces
  | wakeup signal resumes =>
      obtain ⟨rfl, low, idle⟩ := signal_wakeup signal
      -- The stop is on record, so that only an idle suspend is woken without a reset.
      exact woken.resumes recorded_d0_high
        (fun primary => safe rfl primary low (idle (rests.low low))) resumes
  | reset signal reinitializes =>
      obtain ⟨rfl, low⟩ := signal_wakeupReset signal
      exact woken.reinitializes recorded_d0_high reinitializes

theorem closes (rests : c.Rests) (closes : c.Closes d) : d.Rests := by
  cases closes with
  | unattended free => exact rests
  | detached attached write read =>
      have stopped : ((c.stop .write write).stop .read read).Rests := rests.stop.stop
      exact ofStarted stopped.low stopped.flag rfl

end Rests

/-! ## Operations -/

/-- A power request wakes the USB function of a device that is suspended but not started. -/
def wakesUnstarted (c : Core) : Operation → Bool
  | .power (.setDevice .d0) =>
      c.mux.isPrimary && !c.lifecycle.isStarted && c.power.device.isLow && c.power.idleSuspended
  | _ => false

theorem Rests.stable : Stable Rests wakesUnstarted where
  starts rests _ := rests.starts
  attaches rests _ := rests.attaches
  closes := closes
  halted rests halts _ := halted rests.low rests.flag halts _
  untimed rests := ⟨rests.low, rests.flag, rests.loops⟩
  idling rests := ⟨rests.low, rests.flag, rests.loops⟩
  setsSystem {c level} rests := by
    refine ⟨?_, ?_, rests.loops⟩
    · simpa using rests.low
    · simpa using rests.flag
  setsDevice rests safe sets := by
    refine rests.setsDevice ?_ sets
    rintro rfl primary low idle
    simpa [wakesUnstarted, primary, low, idle] using safe
  suspendable _ := rfl
  wakeable started := by simp [wakesUnstarted, started]

end Core

namespace Session

variable {η : Type}

theorem create_rests (key : AdapterKey) (host : η) (store : Store) (options : SessionOptions) :
    (create key host store options).core.Rests :=
  ⟨nofun, nofun, fun _ _ name => by cases name <;> rfl⟩

variable [Host η]

/-- Starting a loop that is live changes nothing about it, its endpoint included. -/
theorem startLoop_live {session : Session η} {name : LoopName}
    (live : (session.loops.get name).live = true) :
    ((Act.startLoop name).exec session).2.loops = session.loops := by
  rw [Act.startLoop, Act.exec_bind_ok (Act.exec_onHost _ _), Act.exec_bind_ok (Act.exec_emit _ _)]
  cases (Host.startLoop name session.host).1 with
  | error e => rfl
  | ok _ => simp [live]

/-- While a device is not started none of its loops is live, provided that no power request woke it
in that state after an idle suspend. A loop left live would not be built anew by a start. -/
theorem unstarted_runs_no_loop (key : AdapterKey) (host : η) (store : Store)
    (options : SessionOptions) (happenings : List Happening) {session : Session η}
    (reached : (create key host store options).through happenings = session)
    (avoids : (create key host store options).avoids Core.wakesUnstarted happenings = true)
    (stops : session.trace.any Event.isFailedStop = false) :
    (session.device.lifecycle.isStarted = false → ∀ name, (session.loops.get name).live = false) ∧
      ∀ name, (session.loops.get name).live = true →
        ((Act.startLoop name).exec session).2.loops = session.loops := by
  have rests : session.core.Rests := by
    rw [← reached]
    exact through_stable Core.Rests.stable _ happenings (create_rests key host store options) avoids
  exact ⟨rests.loops stops, fun _ => startLoop_live⟩

/-- Nothing runs after a stop in a system sleep, nor after a wake and a second stop. -/
theorem stopped_asleep_runs_no_loop :
    let session := (create ⟨220, 3, 0⟩ ({} : ScriptedModem) {} {}).run
      [.start, .open, .power (.setSystem .sleeping3), .power (.setDevice .d3), .stop,
        .power (.setDevice .d0), .stop]
    session.device.lifecycle = .present ∧ ∀ name, (session.loops.get name).live = false :=
  ⟨by decide +kernel,
    (unstarted_runs_no_loop _ _ _ _ _ (through_operations _ _) (by decide +kernel)
      (by decide +kernel)).1 (by decide +kernel)⟩

/-- The interrupt loop of a device that was suspended while idle, and then stopped, is started when
the device is woken. -/
theorem woken_unstarted_runs_interrupt :
    let session := (create ⟨220, 3, 0⟩ ({} : ScriptedModem) {} { idleTimeout := some 0 }).run
      [.start, .open, .close, .pollIdle 1000, .stop, .power (.setDevice .d0)]
    session.trace.any Event.isFailedStop = false ∧ session.device.lifecycle = .present ∧
      (session.loops.get .interrupt).live = true := by
  decide +kernel

end Session

end ModemLink
