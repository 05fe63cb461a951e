import Mathlib.Control.Monad.Basic
import ModemLink.Proofs.Session.DataPath

/-!
# Suspended devices

At a low level no loop but the dispatch loop runs: the flag that the data path was stopped goes with
the level, unless a started device forgets its level or a suspended one is started.
-/

namespace ModemLink

namespace Core

/-- The low-power flag is set at every low level, of a started device at no other, and stands for
stopped loops. -/
structure Calm (c : Core) : Prop where
  flag : c.Clean → c.power.device.isLow = true → c.power.lowPowerMode = true
  level : c.Clean → c.lifecycle.isStarted = true → c.power.lowPowerMode = true →
    c.power.device.isLow = true
  loops : c.Clean → c.power.lowPowerMode = true → ∀ name, name ≠ .dispatch → c.live name = false

variable {c d : Core} {level : DevicePower} {result : Except DriverError Unit}

namespace Calm

/-! ## States that are calm -/

theorem ofFailed (failed : c.startFailed = true) : c.Calm where
  flag clean := absurd (failed.symm.trans clean.1) nofun
  level clean := absurd (failed.symm.trans clean.1) nofun
  loops clean := absurd (failed.symm.trans clean.1) nofun

theorem ofClear (high : c.power.device.isLow = false) (clear : c.power.lowPowerMode = false) :
    c.Calm where
  flag _ low := absurd (high.symm.trans low) nofun
  level _ _ set := absurd (clear.symm.trans set) nofun
  loops _ set := absurd (clear.symm.trans set) nofun

/-- All loops stopped, and a lifecycle that is not started. -/
theorem halted {before : Lifecycle}
    (flag : c.Clean → c.power.device.isLow = true → c.power.lowPowerMode = true)
    (halts : ({ c with lifecycle := before } : Core).Halts d) {lifecycle : Lifecycle}
    (unstarted : lifecycle.isStarted = false) : ({ d with lifecycle } : Core).Calm := by
  obtain ⟨live, startFailed, stopFailed, start, stop⟩ := halts
  exact {
    flag := fun clean => flag ⟨start clean.1, (stop clean.2).1⟩
    level := fun _ started => absurd (unstarted.symm.trans started) nofun
    loops := fun clean _ name _ => (stop clean.2).2 name }

theorem halts (flag : c.Clean → c.power.device.isLow = true → c.power.lowPowerMode = true)
    (halts : c.Halts d) (unstarted : c.lifecycle.isStarted = false) : d.Calm :=
  halted flag halts (halts.lifecycle ▸ unstarted)

theorem stop {name : LoopName} {ok : Bool} (calm : c.Calm) : (c.stop name ok).Calm := by
  have before (clean : (c.stop name ok).Clean) : c.Clean := by
    obtain ⟨started, stopped⟩ := clean
    rw [stop_eq] at started stopped
    exact ⟨started, (Bool.or_eq_false_iff.mp stopped).1⟩
  refine ⟨fun clean => ?_, fun clean => ?_, fun clean set other data => ?_⟩
  · rw [stop_eq]
    exact calm.flag (before clean)
  · rw [stop_eq]
    exact calm.level (before clean)
  · have down := calm.loops (before clean) (by rwa [stop_eq] at set) other data
    rw [stop_eq]
    cases ok with
    | false => exact down
    | true => by_cases same : other = name <;> simp [same, down]

/-! ## One case for each outcome -/

theorem starts (calm : c.Calm)
    (safe : c.lifecycle = .present → c.power.lowPowerMode = false)
    (starts : c.Starts result d) : d.Calm := by
  cases starts with
  | already | refused => exact calm
  | undone e present halts => exact .halts calm.flag halts (by rw [present]; rfl)
  | begun present =>
      rw [begun_eq]
      exact ofClear rfl (safe present)

theorem attaches (calm : c.Calm) (high : c.power.device.isLow = false)
    (attaches : c.Attaches result d) : d.Calm := by
  cases attaches with
  | refused => exact calm
  | noRead e free ok | noWrite e free ok =>
      rw [stop_eq]
      exact ofFailed rfl
  | attached free =>
      -- The flag of a started device stands for a low level, which is not there to attach at.
      have started : c.lifecycle.isStarted = true := by rw [free]; rfl
      exact {
        flag := calm.flag
        level := fun clean _ => calm.level clean started
        loops := fun clean set => absurd (high.symm.trans (calm.level clean started set)) nofun }

theorem resumes (high : c.power.device.isLow = false) (resumes : c.Resumes result d) : d.Calm := by
  cases resumes with
  | noInterrupt | noRead | noWrite => exact ofFailed rfl
  | unattended free | attended attached =>
      rw [listening_eq]
      exact ofClear high rfl

theorem quiesces (low : c.power.device.isLow = true)
    (loops : c.Clean → c.power.lowPowerMode = true → ∀ name, name ≠ .dispatch → c.live name = false)
    (quiesces : c.Quiesces d) : d.Calm := by
  cases quiesces with
  | already set => exact ⟨fun _ _ => set, fun _ _ _ => low, loops⟩
  | stopped high read write interrupt =>
      simp only [stop_eq]
      refine ⟨fun _ _ => rfl, fun _ _ _ => low, fun ⟨_, stopped⟩ _ name data => ?_⟩
      simp only [Bool.or_eq_false_iff, Bool.not_eq_eq_eq_not, Bool.not_false] at stopped
      obtain ⟨⟨⟨_, rfl⟩, rfl⟩, rfl⟩ := stopped
      cases name with
      | dispatch => exact absurd rfl data
      | _ => simp

theorem reinitializes (high : c.power.device.isLow = false)
    (reinitializes : c.Reinitializes result d) : d.Calm := by
  have restarts {f g : Core} {result : Except DriverError Unit} (halts : c.Halts f)
      (starts : f.vacated.Starts result g) : g.Calm :=
    (ofClear (halts.high high) rfl).starts (fun _ => rfl) starts
  cases reinitializes with
  | refused e away unstarted halts =>
      exact .halts (fun _ low => absurd (high.symm.trans low) nofun) halts unstarted
  | lost e halts starts => exact restarts halts starts
  | unattended free halts starts => exact restarts halts starts
  | attended attached halts starts attaches =>
      exact (restarts halts starts).attaches (starts.high (halts.high high)) attaches

theorem recorded (calm : c.Calm) (silent : c.signal level = none)
    (safe : level = .unspecified → c.lifecycle.isStarted = true → c.power.device.isLow = false) :
    (c.recorded level).Calm := by
  obtain ⟨kept, full⟩ := signal_none silent
  refine ⟨fun clean deep => ?_, fun clean started set => ?_, fun clean set => ?_⟩
  · rw [recorded_device] at deep
    rw [recorded_lowPowerMode]
    exact calm.flag clean (kept deep)
  · rw [recorded_lowPowerMode] at set
    have low : c.power.device.isLow = true := calm.level clean started set
    rw [recorded_device]
    cases level with
    | d0 => exact absurd (low.symm.trans (full rfl)) nofun
    | unspecified => exact absurd (low.symm.trans (safe rfl started)) nofun
    | d1 | d2 | d3 => rfl
  · rw [recorded_lowPowerMode] at set
    exact calm.loops clean set

theorem setsDevice (calm : c.Calm)
    (safe : level = .unspecified → c.lifecycle.isStarted = true → c.power.device.isLow = false)
    (sets : c.SetsDevice level result d) : d.Calm := by
  cases sets with
  | vetoed e low => exact calm
  | recorded silent => exact calm.recorded silent safe
  | standby signal quiesces =>
      have low : (c.recorded level).power.device.isLow = true := by
        rw [recorded_device]
        exact (signal_standby signal).1
      refine .quiesces low (fun clean set => ?_) quiesces
      rw [recorded_lowPowerMode] at set
      exact calm.loops clean set
  | wakeup signal resumes =>
      obtain ⟨rfl, -⟩ := signal_wakeup signal
      exact .resumes recorded_d0_high resumes
  | reset signal reinitializes =>
      obtain ⟨rfl, -⟩ := signal_wakeupReset signal
      exact .reinitializes recorded_d0_high reinitializes

theorem closes (calm : c.Calm) (closes : c.Closes d) : d.Calm := by
  cases closes with
  | unattended free => exact calm
  | detached attached write read =>
      have stopped : ((c.stop .write write).stop .read read).Calm := calm.stop.stop
      have started : ((c.stop .write write).stop .read read).lifecycle.isStarted = true := by
        simp only [stop_eq, attached]
        rfl
      exact ⟨stopped.flag, fun clean _ => stopped.level clean started, stopped.loops⟩

end Calm

/-! ## Operations -/

/-- A stopped device is started with its low-power flag still set. -/
def startsSuspended (c : Core) : Operation → Bool
  | .start => c.lifecycle == .present && c.power.lowPowerMode
  | _ => false

/-- The low-power flag and the level part company. -/
def losesTrack (c : Core) (operation : Operation) : Bool :=
  c.forgets operation || c.startsSuspended operation

theorem Calm.stable : Stable Calm losesTrack where
  starts calm safe starts := by
    refine calm.starts (fun present => ?_) starts
    simpa [losesTrack, forgets, startsSuspended, present] using safe
  attaches := attaches
  closes := closes
  halted calm halts unstarted := halted calm.flag halts unstarted
  untimed calm := ⟨calm.flag, calm.level, calm.loops⟩
  idling calm := ⟨calm.flag, calm.level, calm.loops⟩
  setsSystem {c level} calm := by
    have device := c.power.setSystem_device level
    have mode := c.power.setSystem_lowPowerMode level
    refine ⟨fun clean low => ?_, fun clean started set => ?_, fun clean set => ?_⟩
    · exact mode ▸ calm.flag clean (device ▸ low)
    · exact device ▸ calm.level clean started (mode ▸ set)
    · exact calm.loops clean (mode ▸ set)
  setsDevice calm safe sets := by
    refine calm.setsDevice ?_ sets
    rintro rfl started
    simpa [losesTrack, forgets, startsSuspended, started] using safe
  suspendable _ := rfl
  wakeable _ := rfl

end Core

namespace Session

variable {η : Type}

/-- No loop runs that would talk to the device. -/
def Quiescent (session : Session η) : Prop :=
  ∀ name, name ≠ .dispatch → (session.loops.get name).live = false

theorem create_calm (key : AdapterKey) (host : η) (store : Store) (options : SessionOptions) :
    (create key host store options).core.Calm :=
  .ofClear rfl rfl

variable [Host η]

/-- A device at a low level has no data path, right after the idle poll that suspended it and after
every low level that was accepted too, if only no loop failed to start or stop and no operation
parted the low-power flag from the level. -/
theorem suspended_is_quiescent (key : AdapterKey) (host : η) (store : Store)
    (options : SessionOptions) (happenings : List Happening) {session : Session η}
    (reached : (create key host store options).through happenings = session)
    (avoids : (create key host store options).avoids Core.losesTrack happenings = true)
    (clean : session.Clean) :
    (session.device.power.device.isLow = true → session.Quiescent) ∧
      (∀ now after, (pollIdle now).exec session = (.ok true, after) → after.Clean →
        after.device.power.device = .d2 ∧ after.Quiescent) ∧
      ∀ level after, level.isLow = true →
        (handlePower (.setDevice level)).exec session = (.ok (), after) → after.Clean →
          after.device.power.device = level ∧ after.Quiescent := by
  have quiescent {other : Session η} (calm : other.core.Calm) (clean : other.Clean)
      (low : other.device.power.device.isLow = true) : other.Quiescent :=
    calm.loops clean (calm.flag clean low)
  have calm : session.core.Calm := by
    rw [← reached]
    exact through_stable Core.Calm.stable _ happenings (create_calm key host store options) avoids
  refine ⟨quiescent calm clean, fun now after polled clean => ?_,
    fun level after low accepted clean => ?_⟩
  · have polls : session.core.PollsIdle _ ((pollIdle now).exec session).2.core :=
      leads_pollIdle session rfl
    rw [polled] at polls
    have level : after.device.power.device = .d2 := by
      cases polls with
      | suspended high sets => exact sets.device rfl
    exact ⟨level, quiescent (Core.Calm.stable.pollsIdle calm polls) clean (by rw [level]; rfl)⟩
  · have handles : session.core.HandlesPower _ _
        ((handlePower (.setDevice level)).exec session).2.core := leads_handlePower session rfl
    rw [accepted] at handles
    cases handles with
    | setDevice sets =>
        have reached : after.device.power.device = level := sets.device low
        have kept : after.core.Calm := by
          refine calm.setsDevice ?_ sets
          rintro rfl
          exact absurd low nofun
        exact ⟨reached, quiescent kept clean (by rw [reached]; exact low)⟩

/-- A device that was suspended, woken, stopped and started is suspended again, by the idle timer as
well as by a request. -/
theorem suspended_is_quiescent_after_restart :
    let session := (create ⟨220, 2, 0⟩ ({} : ScriptedModem) {} { idleTimeout := some 0 }).run
      [.start, .power (.setDevice .d2), .power (.setDevice .d0), .stop, .start, .open, .close]
    let polled := ((pollIdle 1000).exec session).2
    let set := ((handlePower (.setDevice .d3)).exec session).2
    polled.device.power.device = .d2 ∧ polled.Quiescent ∧
      set.device.power.device = .d3 ∧ set.Quiescent := by
  intro session polled set
  have clean : session.Clean := by decide +kernel
  obtain ⟨-, polls, sets⟩ :=
    suspended_is_quiescent _ _ _ _ _ (through_operations _ _) (by decide +kernel) clean
  have suspends : (pollIdle 1000).exec session = (.ok true, polled) :=
    Act.exec_of_result (by decide +kernel)
  have accepts : (handlePower (.setDevice .d3)).exec session = (.ok (), set) :=
    Act.exec_of_result (by decide +kernel)
  obtain ⟨idle, idleQuiet⟩ := polls 1000 polled suspends (by decide +kernel)
  obtain ⟨low, quiet⟩ := sets .d3 set rfl accepts (by decide +kernel)
  exact ⟨idle, idleQuiet, low, quiet⟩

/-- A device that was stopped while suspended keeps its low-power flag when it is started, and the
next low level stops no loop. -/
theorem suspended_after_suspended_stop_runs_interrupt :
    let session := (create ⟨220, 2, 0⟩ ({} : ScriptedModem) {} { idleTimeout := none }).run
      [.start, .power (.setDevice .d2), .stop, .start, .power (.setDevice .d2)]
    session.Clean ∧ session.device.lifecycle = .started false ∧
      session.device.power.device = .d2 ∧ (session.loops.get .interrupt).live = true := by
  decide +kernel

end Session

end ModemLink
