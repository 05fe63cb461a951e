import Mathlib.Tactic.SplitIfs
import ModemLink.Proofs.Session.Core

/-!
# The power record

What recording a level keeps, and which signal it gives.
-/

namespace ModemLink

namespace PowerRecord

variable (p : PowerRecord) (level : DevicePower)

/-! ## What a device level changes -/

@[simp] theorem supersedeIdle_device : (p.supersedeIdle level).device = p.device := by
  unfold supersedeIdle
  split <;> rfl

theorem supersedeIdle_d0 : p.supersedeIdle .d0 = p := by
  simp [supersedeIdle, DevicePower.isLow, DevicePower.depth]

/-- A level changes nothing but the level itself and how the device came to it. -/
theorem setDevice_frame : (p.setDevice level).2 =
    { p with
      device := level
      idleSuspended := (p.setDevice level).2.idleSuspended
      stopped := (p.setDevice level).2.stopped } := by
  by_cases same : p.device = level
  · subst same
    simp only [setDevice, if_true]
  · simp only [setDevice, same, if_false, change, supersedeIdle]
    split_ifs <;> rfl

@[simp] theorem setDevice_device : (p.setDevice level).2.device = level := by
  rw [setDevice_frame]

@[simp] theorem setDevice_powerSuspended :
    (p.setDevice level).2.powerSuspended = p.powerSuspended := by
  rw [setDevice_frame]

@[simp] theorem setDevice_lowPowerMode : (p.setDevice level).2.lowPowerMode = p.lowPowerMode := by
  rw [setDevice_frame]

@[simp] theorem setDevice_system : (p.setDevice level).2.system = p.system := by
  rw [setDevice_frame]

@[simp] theorem setDevice_waitWakeArmed :
    (p.setDevice level).2.waitWakeArmed = p.waitWakeArmed := by
  rw [setDevice_frame]

/-- An idle suspend is superseded while the system sleeps, but only by a level that is new. -/
theorem setDevice_idleSuspended : (p.setDevice level).2.idleSuspended =
    (p.idleSuspended && !(p.device != level && level.isLow && !p.system.isAwake)) := by
  by_cases same : p.device = level
  · simp [setDevice, same]
  · have changed (q : PowerRecord) : (q.change level).2.idleSuspended = q.idleSuspended := by
      unfold change
      split_ifs <;> rfl
    simp only [setDevice, same, if_false, changed, supersedeIdle]
    cases level.isLow <;> cases p.system.isAwake <;> cases idle : p.idleSuspended <;> simp [idle, same]

/-- The signal rests on the level before, and on the stop that led to it. -/
theorem setDevice_signal : (p.setDevice level).1 =
    if level = .d0 then
      if p.device.isLow then
        some (if p.powerSuspended && !p.idleSuspended then .wakeupReset else .wakeup)
      else none
    else if level.isLow && !p.device.isLow then some .standby
    else none := by
  by_cases same : p.device = level
  · subst same
    cases device : p.device <;> simp [setDevice, device, DevicePower.isLow, DevicePower.depth]
  · by_cases full : level = .d0
    · subst full
      simp only [setDevice, same, if_false, supersedeIdle_d0, change, if_true]
    · simp only [setDevice, same, if_false, change, full, supersedeIdle_device]
      split <;> rfl

section Signals

variable {p level}

theorem signal_none (signal : (p.setDevice level).1 = none) :
    (level.isLow = true → p.device.isLow = true) ∧ (level = .d0 → p.device.isLow = false) := by
  rw [setDevice_signal] at signal
  split_ifs at signal <;> simp_all [DevicePower.isLow, DevicePower.depth]

theorem signal_standby (signal : (p.setDevice level).1 = some .standby) :
    level.isLow = true ∧ p.device.isLow = false := by
  rw [setDevice_signal] at signal
  split_ifs at signal <;> simp_all

theorem signal_wakeup (signal : (p.setDevice level).1 = some .wakeup) :
    level = .d0 ∧ p.device.isLow = true ∧ (p.powerSuspended = true → p.idleSuspended = true) := by
  rw [setDevice_signal] at signal
  split_ifs at signal <;> simp_all

theorem signal_wakeupReset (signal : (p.setDevice level).1 = some .wakeupReset) :
    level = .d0 ∧ p.device.isLow = true ∧ p.idleSuspended = false := by
  rw [setDevice_signal] at signal
  split_ifs at signal <;> simp_all

end Signals

section System

variable (system : SystemPower)

theorem setSystem_frame : p.setSystem system =
    { p with
      system
      prepareToPowerDown := (p.setSystem system).prepareToPowerDown
      deregistrationSent := (p.setSystem system).deregistrationSent } := by
  unfold setSystem
  split
  · rfl
  · split <;> rfl

@[simp] theorem setSystem_device : (p.setSystem system).device = p.device := by
  rw [setSystem_frame]

@[simp] theorem setSystem_powerSuspended :
    (p.setSystem system).powerSuspended = p.powerSuspended := by
  rw [setSystem_frame]

@[simp] theorem setSystem_lowPowerMode : (p.setSystem system).lowPowerMode = p.lowPowerMode := by
  rw [setSystem_frame]

@[simp] theorem setSystem_idleSuspended :
    (p.setSystem system).idleSuspended = p.idleSuspended := by
  rw [setSystem_frame]

end System

/-! ## The wait-wake flag has no say -/

theorem disarmed_supersedeIdle :
    (p.supersedeIdle level).disarmed = p.disarmed.supersedeIdle level :=
  apply_ite disarmed _ _ _

theorem disarmed_change :
    p.disarmed.change level = ((p.change level).1, (p.change level).2.disarmed) := by
  by_cases full : level = .d0
  · simp [change, full, disarmed]
  · by_cases drops : (level.isLow && !p.device.isLow) = true
    · simp only [change, full, disarmed, drops, if_true, if_false]
    · simp only [change, full, disarmed, drops, if_false, Bool.false_eq_true]

theorem disarmed_setDevice :
    p.disarmed.setDevice level = ((p.setDevice level).1, (p.setDevice level).2.disarmed) := by
  by_cases same : p.device = level
  · simp only [setDevice, disarmed, same, if_true]
  · simp only [setDevice, show p.disarmed.device = p.device from rfl, same, if_false,
      ← disarmed_supersedeIdle, disarmed_change]

theorem disarmed_setSystem (level : SystemPower) :
    (p.setSystem level).disarmed = p.disarmed.setSystem level := by
  unfold setSystem
  split
  · rfl
  · split <;> rfl

end PowerRecord

end ModemLink
