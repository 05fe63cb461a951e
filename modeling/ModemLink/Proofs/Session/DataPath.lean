import ModemLink.Proofs.Session.Invariant
import ModemLink.Scripted

/-!
# The data path of an attached client

While a client is attached and the device is at D0, its loops run, unless a started device was told
to forget that it is suspended.
-/

namespace ModemLink

namespace Core

/-- Outside of the low levels a started device runs the loops that its lifecycle asks for. -/
structure Serves (c : Core) : Prop where
  interrupt : c.Clean → c.lifecycle.isStarted = true → c.power.device.isLow = false →
    c.mux.isPrimary = true → c.live .interrupt = true
  data : c.Clean → c.lifecycle.inService = true → c.power.device.isLow = false →
    c.live .read = true ∧ c.live .write = true

namespace Serves

variable {c d : Core} {level : DevicePower} {result : Except DriverError Unit}

/-! ## States that ask for nothing -/

theorem ofUnstarted (unstarted : c.lifecycle.isStarted = false) : c.Serves where
  interrupt _ started := absurd (unstarted.symm.trans started) nofun
  data _ attached :=
    absurd (unstarted.symm.trans (Lifecycle.isStarted_of_inService attached)) nofun

theorem ofLow (low : c.power.device.isLow = true) : c.Serves where
  interrupt _ _ high := absurd (low.symm.trans high) nofun
  data _ _ high := absurd (low.symm.trans high) nofun

theorem ofFailed (failed : c.startFailed = true) : c.Serves where
  interrupt clean := absurd (failed.symm.trans clean.1) nofun
  data clean := absurd (failed.symm.trans clean.1) nofun

/-- Without a client only the interrupt loop is asked for. -/
theorem ofUnattended (free : c.lifecycle.inService = false)
    (interrupt : c.Clean → c.lifecycle.isStarted = true → c.power.device.isLow = false →
      c.mux.isPrimary = true → c.live .interrupt = true) : c.Serves where
  interrupt := interrupt
  data _ attached := absurd (free.symm.trans attached) nofun

theorem halts (halts : c.Halts d) (unstarted : c.lifecycle.isStarted = false) : d.Serves :=
  ofUnstarted (halts.lifecycle ▸ unstarted)

/-! ## One case for each outcome -/

theorem starts (serves : c.Serves) (starts : c.Starts result d) : d.Serves := by
  cases starts with
  | already | refused => exact serves
  | undone e present halts => exact .halts halts (by rw [present]; rfl)
  | begun present =>
      rw [begun_eq]
      refine ofUnattended rfl fun _ _ _ primary => ?_
      rw [if_pos primary]
      simp

theorem attaches (serves : c.Serves) (attaches : c.Attaches result d) : d.Serves := by
  cases attaches with
  | refused => exact serves
  | noRead e free ok | noWrite e free ok =>
      rw [stop_eq]
      exact ofFailed rfl
  | attached free =>
      refine ⟨fun clean _ high primary => ?_, fun _ _ _ => by simp [serving, start]⟩
      have interrupt := serves.interrupt clean (by rw [free]; rfl) high primary
      simpa [serving, start, engaged] using interrupt

theorem resumes (resumes : c.Resumes result d) : d.Serves := by
  cases resumes with
  | noInterrupt | noRead | noWrite => exact ofFailed rfl
  | unattended free =>
      rw [listening_eq]
      refine ofUnattended free fun _ _ _ primary => ?_
      simp [cleared, show c.mux.isPrimary = true from primary]
  | attended attached =>
      rw [listening_eq]
      refine ⟨fun _ _ _ primary => ?_, fun _ _ _ => by simp [cleared, serving, start]⟩
      simp [cleared, serving, start, show c.mux.isPrimary = true from primary]

theorem reinitializes (reinitializes : c.Reinitializes result d) : d.Serves := by
  have vacated {f : Core} : f.vacated.Serves := ofUnstarted rfl
  cases reinitializes with
  | refused e away unstarted halts => exact .halts halts unstarted
  | lost e halts starts => exact vacated.starts starts
  | unattended free halts starts => exact vacated.starts starts
  | attended attached halts starts attaches => exact (vacated.starts starts).attaches attaches

/-- A level that gives no signal keeps what the loops are to do, unless a started device comes out
of a low level with it. -/
theorem recorded (serves : c.Serves) (silent : c.signal level = none)
    (safe : level = .unspecified → c.lifecycle.isStarted = true → c.power.device.isLow = false) :
    (c.recorded level).Serves := by
  obtain ⟨kept, full⟩ := signal_none silent
  cases low : c.power.device.isLow with
  | false =>
      exact ⟨fun clean started _ => serves.interrupt clean started low,
        fun clean attached _ => serves.data clean attached low⟩
  | true =>
      -- Full power would have given a signal.
      cases level with
      | d0 => exact absurd (low.symm.trans (full rfl)) nofun
      | unspecified =>
          refine ofUnstarted (Bool.eq_false_iff.mpr fun started => ?_)
          exact absurd (low.symm.trans (safe rfl started)) nofun
      | d1 | d2 | d3 => exact ofLow (by rw [recorded_device]; rfl)

theorem quiesces (low : c.power.device.isLow = true) (quiesces : c.Quiesces d) : d.Serves := by
  cases quiesces with
  | already => exact ofLow low
  | stopped high read write interrupt =>
      simp only [stop_eq]
      exact ofLow low

theorem setsDevice (serves : c.Serves)
    (safe : level = .unspecified → c.lifecycle.isStarted = true → c.power.device.isLow = false)
    (sets : c.SetsDevice level result d) : d.Serves := by
  cases sets with
  | vetoed e low => exact serves
  | recorded silent => exact serves.recorded silent safe
  | standby signal quiesces =>
      have low : (c.recorded level).power.device.isLow = true := by
        rw [recorded_device]
        exact (signal_standby signal).1
      exact .quiesces low quiesces
  | wakeup signal resumes => exact .resumes resumes
  | reset signal reinitializes => exact .reinitializes reinitializes

theorem closes (serves : c.Serves) (closes : c.Closes d) : d.Serves := by
  cases closes with
  | unattended free => exact serves
  | detached attached write read =>
      simp only [stop_eq]
      refine ofUnattended rfl fun ⟨started, stopped⟩ _ high primary => ?_
      simp only [Core.detached, Bool.or_eq_false_iff] at stopped
      have interrupt := serves.interrupt ⟨started, stopped.1.1⟩ (by rw [attached]; rfl) high primary
      cases write <;> cases read <;> simpa [Core.detached] using interrupt

end Serves

/-! ## Operations -/

/-- A started device is told to leave a low level for none in particular. -/
def forgets (c : Core) : Operation → Bool
  | .power (.setDevice .unspecified) => c.lifecycle.isStarted && c.power.device.isLow
  | _ => false

theorem Serves.stable : Stable Serves forgets where
  starts serves _ := serves.starts
  attaches serves _ := serves.attaches
  closes := closes
  halted _ _ unstarted := ofUnstarted unstarted
  untimed serves := ⟨serves.interrupt, serves.data⟩
  idling serves := ⟨serves.interrupt, serves.data⟩
  setsSystem {c level} serves := by
    have device := c.power.setSystem_device level
    refine ⟨fun clean started high => ?_, fun clean attached high => ?_⟩
    · exact serves.interrupt clean started (device ▸ high)
    · exact serves.data clean attached (device ▸ high)
  setsDevice serves safe sets := by
    refine serves.setsDevice ?_ sets
    rintro rfl started
    simpa [forgets, started] using safe
  suspendable _ := rfl
  wakeable _ := rfl

end Core

namespace Session

variable {η : Type} [Host η]

/-- An attached client of a device at D0 has its data path running, whatever went on before, if only
no loop failed to start or stop and no started device was made to forget its low level. -/
theorem attached_is_served (key : AdapterKey) (host : η) (store : Store) (options : SessionOptions)
    (happenings : List Happening) {session : Session η}
    (reached : (create key host store options).through happenings = session)
    (avoids : (create key host store options).avoids Core.forgets happenings = true)
    (clean : session.Clean) (attached : session.device.lifecycle = .started true)
    (powered : session.device.power.device = .d0) :
    (session.loops.get .read).live = true ∧ (session.loops.get .write).live = true ∧
      (session.device.mux.isPrimary = true → (session.loops.get .interrupt).live = true) := by
  have serves : session.core.Serves := by
    rw [← reached]
    exact through_stable Core.Serves.stable _ happenings (.ofUnstarted rfl) avoids
  have high : session.core.power.device.isLow = false := congrArg DevicePower.isLow powered
  obtain ⟨read, write⟩ := serves.data clean (Lifecycle.inService_iff.mpr attached) high
  exact ⟨read, write, serves.interrupt clean (congrArg Lifecycle.isStarted attached) high⟩

/-- A client is served again after its device lost power in a system sleep. -/
theorem attached_is_served_after_sleep :
    let session := (create ⟨220, 1, 0⟩ ({} : ScriptedModem) {} {}).run
      [.start, .open, .power (.setSystem .sleeping3), .power (.setDevice .d3),
        .power (.setSystem .working), .power (.setDevice .d0)]
    (session.loops.get .read).live = true ∧ (session.loops.get .write).live = true ∧
      (session.device.mux.isPrimary = true → (session.loops.get .interrupt).live = true) :=
  attached_is_served _ _ _ _ _ (through_operations _ _) (by decide +kernel) (by decide +kernel)
    (by decide +kernel) (by decide +kernel)

/-- A level that is none in particular makes the device forget that it has to be woken: at D0 again,
its client is attached to loops that stay stopped. -/
theorem attached_is_not_served_after_unspecified :
    let session := (create ⟨220, 1, 0⟩ ({} : ScriptedModem) {} { idleTimeout := some 0 }).run
      [.start, .open, .power (.setSystem .sleeping3), .power (.setDevice .d3),
        .power (.setDevice .unspecified), .power (.setSystem .working), .power (.setDevice .d0)]
    session.Clean ∧ session.device.lifecycle = .started true ∧ session.device.power.device = .d0 ∧
      (session.loops.get .read).live = false ∧ (session.loops.get .write).live = false ∧
      session.device.mux.isPrimary = true ∧ (session.loops.get .interrupt).live = false := by
  decide +kernel

end Session

end ModemLink
