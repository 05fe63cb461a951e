import ModemLink.Bus.Error
import ModemLink.Usb.Pipe

/-!
# Selecting over any USB stack

A `UsbStack` is a stack with one open device, of which nothing is known but how to call it: any
call may succeed or fail at any time. A `Holder` selects and releases interfaces over such a stack,
keeps account of the calls it made about them, and keeps the descriptors that it read.
-/

namespace ModemLink

/-- A call that concerns one interface. -/
inductive InterfaceCall where
  | detach (interface : UInt8)
  | attach (interface : UInt8)
  | claim (interface : UInt8)
  | unclaim (interface : UInt8)
  | choose (interface alternate : UInt8)
  deriving DecidableEq, Repr

class UsbStack (σ : Type) where
  getConfiguration : σ → Except BusError UInt8 × σ
  setConfiguration (value : UInt8) : σ → Except BusError Unit × σ
  kernelDriverActive (interface : UInt8) : σ → Except BusError Bool × σ
  perform (call : InterfaceCall) : σ → Except BusError Unit × σ
  /-- How many configurations the device advertises. -/
  configurations : σ → Except BusError UInt8 × σ
  configDescriptor (index : UInt8) : σ → Except BusError Bytes × σ

structure Account where
  /-- Interfaces claimed by the last selection, in the order of their claims. -/
  claimed : List UInt8 := []
  /-- Calls about interfaces, the oldest first, each with whether it succeeded. -/
  calls : List (InterfaceCall × Bool) := []
  deriving DecidableEq, Repr

namespace Account

def note (account : Account) (call : InterfaceCall) (succeeded : Bool) : Account :=
  { account with calls := account.calls ++ [(call, succeeded)] }

def hold (account : Account) (interface : UInt8) : Account :=
  { account with claimed := account.claimed ++ [interface] }

/-- How often a call was made. -/
def attempts (account : Account) (call : InterfaceCall) : Nat :=
  (account.calls.map Prod.fst).count call

end Account

/-- The pipes that the records list under a setting. Endpoints belong to the setting before them. -/
def Selection.pipes (selection : Selection) (current : Option Selection) : List Record → List Pipe
  | [] => []
  | .interface d :: rest => selection.pipes (some ⟨d.number, d.alternate⟩) rest
  | .endpoint d :: rest =>
      if current = some selection then
        { interface := selection.interface, endpoint := d.address
          type := .ofAttributes d.attributes, maxPacket := d.maxPacket } ::
          selection.pipes current rest
      else selection.pipes current rest
  | _ :: rest => selection.pipes current rest

structure Holder (σ : Type) where
  stack : σ
  account : Account := {}
  /-- Configuration descriptors that were read. -/
  configs : List Bytes := []

abbrev HolderAct (σ α : Type) := ExceptT BusError (StateM (Holder σ)) α

namespace Holder

variable {σ α : Type}

/-- The holder once the action is over, whether or not it succeeded. -/
def after (act : HolderAct σ α) (holder : Holder σ) : Holder σ := (act.run.run holder).2

def onStack (f : σ → Except BusError α × σ) : HolderAct σ α := fun holder =>
  let (result, stack) := f holder.stack
  (result, { holder with stack })

def onAccount (f : Account → Account) : HolderAct σ Unit :=
  modify fun holder => { holder with account := f holder.account }

def attempt (act : HolderAct σ α) : HolderAct σ Unit :=
  tryCatch (discard act) fun _ => pure ()

variable [UsbStack σ]

/-- A call about an interface, which goes into the account however it ends. -/
def perform (call : InterfaceCall) : HolderAct σ Unit := fun holder =>
  let (result, stack) := UsbStack.perform call holder.stack
  (result, { holder with stack, account := holder.account.note call result.isOk })

/-- Detaches a kernel driver that is known to be active. -/
def freeInterface (interface : UInt8) : HolderAct σ Unit := do
  let active ← tryCatch (onStack (UsbStack.kernelDriverActive interface)) fun _ => return false
  if active then attempt (perform (.detach interface))

/-- Claims an interface, unless that has been done, and sets its alternate setting. -/
def selectInterface (selection : Selection) : HolderAct σ Unit := do
  let number := selection.interface
  freeInterface number
  if number ∉ (← get).account.claimed then
    perform (.claim number)
    onAccount fun account => account.hold number
  if selection.alternate != 0 then perform (.choose number selection.alternate)

def readConfig (index : UInt8) : HolderAct σ Bytes := do
  let config ← onStack (UsbStack.configDescriptor index)
  modify fun holder => { holder with configs := holder.configs ++ [config] }
  return config

/-- The pipes of one setting in the first configuration with the given value. -/
def pipesIn (value : UInt8) (selection : Selection) : List UInt8 → HolderAct σ (List Pipe)
  | [] => throw .notFound
  | index :: rest => do
      let config ← readConfig index
      if config.getD 5 0 != value then pipesIn value selection rest
      else return selection.pipes none (Record.ofConfiguration config)

def pipesFor (value : UInt8) (selection : Selection) : HolderAct σ (List Pipe) := do
  let count ← onStack UsbStack.configurations
  pipesIn value selection ((List.range count.toNat).map Nat.toUInt8)

/-- Activates a configuration and its interfaces and opens their pipes. -/
def select (value : UInt8) (selections : List Selection) : HolderAct σ (List Pipe) := do
  let active ← tryCatch (some <$> onStack UsbStack.getConfiguration) fun _ => return none
  if active != some value then onStack (UsbStack.setConfiguration value)
  selections.forM selectInterface
  return (← selections.mapM (pipesFor value)).flatten

def release : HolderAct σ Unit := do
  let claimed := (← get).account.claimed
  onAccount fun account => { account with claimed := [] }
  claimed.forM fun interface => do
    attempt (perform (.unclaim interface))
    attempt (perform (.attach interface))

end Holder

end ModemLink
