import ModemLink.Lifecycle
import ModemLink.Power.RequestPool
import ModemLink.Traffic
import ModemLink.Usb.Pipe
import ModemLink.Usb.Speed

/-!
# Device record

All that the driver knows of one logical device: who it is, its lifecycle, power bookkeeping,
active configuration, pipe status, queues and statistics.
-/

namespace ModemLink

structure DeviceStrings where
  manufacturer : Option String := none
  product : Option String := none
  serial : Option String := none
  deriving DecidableEq, Repr

structure Identity where
  vendorId : UInt16 := 0
  productId : UInt16 := 0
  portName : String := ""
  model : Model := .none
  speed : Speed := .full
  usbVersion : UInt16 := 0
  strings : DeviceStrings := {}
  deriving DecidableEq, Repr

inductive TrackedPipe where
  | control
  | interrupt
  | input
  | output
  deriving DecidableEq, Repr

def PipeRole.tracked : PipeRole → TrackedPipe
  | bulkIn => .input
  | bulkOut => .output
  | interrupt => .interrupt

/-- The last failure of each pipe, `none` after a success. -/
structure PipeStatus where
  control : Option UsbError := none
  interrupt : Option UsbError := none
  input : Option UsbError := none
  output : Option UsbError := none
  deriving DecidableEq, Repr

namespace PipeStatus

def get (s : PipeStatus) : TrackedPipe → Option UsbError
  | .control => s.control
  | .interrupt => s.interrupt
  | .input => s.input
  | .output => s.output

def set (s : PipeStatus) (pipe : TrackedPipe) (status : Option UsbError) : PipeStatus :=
  match pipe with
  | .control => { s with control := status }
  | .interrupt => { s with interrupt := status }
  | .input => { s with input := status }
  | .output => { s with output := status }

/-- The pipe reports that the device has left. -/
def lost (s : PipeStatus) (pipe : TrackedPipe) : Bool := (s.get pipe).any UsbError.isDisconnect

@[simp] theorem get_set (s : PipeStatus) (pipe other : TrackedPipe) (status : Option UsbError) :
    (s.set pipe status).get other = if other = pipe then status else s.get other := by
  cases pipe <;> cases other <;> rfl

end PipeStatus

structure PowerRecord where
  device : DevicePower := .unspecified
  system : SystemPower := .unspecified
  prepareToPowerDown : Bool := false
  suspendAllowed : Bool := true
  /-- The data path was stopped for a power transition. -/
  powerSuspended : Bool := false
  /-- That stop was an idle suspend. -/
  idleSuspended : Bool := false
  lowPowerMode : Bool := false
  stopped : Bool := false
  /-- A deregistration was sent in this sleep cycle. -/
  deregistrationSent : Bool := false
  waitWakeArmed : Bool := false
  /-- In milliseconds. -/
  idleDeadline : Option Nat := none
  deriving DecidableEq, Repr

/-- What the session does about a change of the device level. -/
inductive PowerSignal where
  /-- Resume the stopped data path. -/
  | wakeup
  /-- The device lost power: enumerate it again. -/
  | wakeupReset
  /-- Quiesce the data path. -/
  | standby
  deriving DecidableEq, Repr

namespace PowerRecord

/-- A device that was suspended while idle and then sleeps with the system loses power. -/
def supersedeIdle (p : PowerRecord) (target : DevicePower) : PowerRecord :=
  if target.isLow && !p.system.isAwake && p.idleSuspended then { p with idleSuspended := false }
  else p

/-- Moves to a level other than the current one. -/
def change (p : PowerRecord) (target : DevicePower) : Option PowerSignal × PowerRecord :=
  if target = .d0 then
    let signal :=
      if p.device.isLow then
        some (if p.powerSuspended && !p.idleSuspended then PowerSignal.wakeupReset else .wakeup)
      else none
    (signal, { p with stopped := false, device := target })
  else if target.isLow && !p.device.isLow then
    (some .standby, { p with stopped := true, device := target })
  else (none, { p with device := target })

def setDevice (p : PowerRecord) (target : DevicePower) : Option PowerSignal × PowerRecord :=
  if p.device = target then (none, p) else (p.supersedeIdle target).change target

def setSystem (p : PowerRecord) (target : SystemPower) : PowerRecord :=
  if target.isAwake then
    { p with system := target, deregistrationSent := false, prepareToPowerDown := false }
  else if target.isDeepSleep then
    { p with system := target, prepareToPowerDown := true, deregistrationSent := true }
  else { p with system := target }

def clearSuspend (p : PowerRecord) : PowerRecord :=
  { p with lowPowerMode := false, powerSuspended := false, idleSuspended := false
           waitWakeArmed := false }

end PowerRecord

structure Device where
  mux : MuxConfig
  identity : Identity
  lifecycle : Lifecycle := .absent
  power : PowerRecord := {}
  pool : RequestPool
  configuration : Option UsbConfiguration := none
  pipes : PipeStatus := {}
  stats : TransferStats := {}
  /-- One bit per kind of transfer under way. -/
  ioBusy : UInt32 := 0
  inflightResponses : UInt32 := 0
  txPaused : Bool := false
  queues : Queues := {}
  deriving DecidableEq, Repr

namespace Device

def create (mux : MuxConfig) (portName : String) (poolCapacity : Nat) : Device where
  mux
  identity := { portName }
  pool := .ofCapacity poolCapacity

def resetDescriptorCache (d : Device) : Device :=
  { d with identity := { portName := d.identity.portName }, configuration := none, pipes := {} }

def endpoint? (d : Device) (role : PipeRole) : Option UInt8 :=
  (d.configuration.bind fun config => config.pipe? role).map PipeInfo.endpoint

/-- A tracked pipe reports the device gone; never during a system sleep. -/
def isBroken (d : Device) : Bool :=
  d.power.system.isAwake &&
    [TrackedPipe.control, .interrupt, .input, .output].any fun pipe => d.pipes.lost pipe

def setBusy (d : Device) (bits : UInt32) : Device := { d with ioBusy := d.ioBusy ||| bits }

def clearBusy (d : Device) (bits : UInt32) : Device :=
  { d with ioBusy := d.ioBusy &&& (bits ^^^ 0xFFFFFFFF) }

/-- Why a low level is refused while the system is awake. -/
def vetoReason? (d : Device) : Option String :=
  if d.lifecycle.inService then some "client open"
  else if d.ioBusy != 0 then some "I/O in flight"
  else if !d.power.suspendAllowed then some "selective suspend disabled"
  else none

/-- Refuses D1 or deeper while awake and open, busy or not allowed to suspend. -/
def checkVeto (d : Device) (target : DevicePower) : Except DriverError Unit :=
  if target.isLow && d.power.system.isAwake then
    match d.vetoReason? with
    | some reason => .error (.powerVeto s!"{target.name}: {reason}")
    | none => .ok ()
  else .ok ()

/-- The idle timer has fired and the device may be suspended. -/
def idleExpired (d : Device) (now : Nat) : Bool :=
  d.power.idleDeadline.any (· ≤ now) && d.power.suspendAllowed && d.power.system.isAwake &&
    !d.power.device.isLow && !d.lifecycle.inService && d.ioBusy == 0

end Device

end ModemLink
