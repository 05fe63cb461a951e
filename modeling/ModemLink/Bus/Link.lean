import ModemLink.Bus.Handle
import ModemLink.Bus.Stack
import ModemLink.Session.Basic

/-!
# A device on the bus as the host of a session

The handle of an open device remembers the interfaces that were claimed through it; dropping it
releases those it still remembers, the lowest first, and closes the device. A link is a stack of one
open device, over which a `Holder` selects and releases interfaces.
-/

namespace ModemLink

structure DeviceSummary where
  bus : UInt8
  address : UInt8
  vendorId : UInt16
  productId : UInt16
  speed : Speed
  deriving DecidableEq, Repr

structure Handle where
  device : Nat
  speed : Speed
  /-- Interfaces claimed by the last selection, in the order of their claims. -/
  claimed : List UInt8 := []
  /-- Interfaces claimed and not released since. -/
  remembered : List UInt8 := []
  deriving DecidableEq, Repr

structure Link where
  bus : Bus
  handle : Handle

abbrev LinkAct (α : Type) := ExceptT BusError (StateM Link) α

namespace Bus

/-- Summaries of the devices whose descriptor can be read. -/
def summaries : List Nat → BusAct (List DeviceSummary)
  | [] => return []
  | n :: rest => do
      let found ← tryCatch (some <$> deviceDescriptor n) fun _ => return none
      let others ← summaries rest
      match found with
      | none => return others
      | some d =>
          return { bus := d.bus, address := d.address, vendorId := d.vendorId
                   productId := d.productId, speed := d.knownSpeed } :: others

def listDevices : BusAct (List DeviceSummary) := do summaries (← list)

/-- The first of the devices with the given identifiers; one that has no descriptor is passed. -/
def find? (vendor product : UInt16) : List Nat → BusAct (Option Nat)
  | [] => return none
  | n :: rest => do
      let matched ← tryCatch (do
        let d ← deviceDescriptor n
        return d.vendorId == vendor && d.productId == product) fun _ => return false
      if matched then return some n
      find? vendor product rest

/-- Opens the first present device with the given identifiers. -/
def openLink (vendor product : UInt16) : BusAct Handle := do
  match ← find? vendor product (← list) with
  | none => throw .notFound
  | some n =>
      openDevice n
      return { device := n, speed := ((← get).device n).knownSpeed }

end Bus

namespace Link

def device (link : Link) : BusDevice := link.bus.device link.handle.device

def onBus {α : Type} (f : Nat → BusAct α) : LinkAct α := fun link =>
  let (result, bus) := (f link.handle.device).run.run link.bus
  (result, { link with bus })

def attempt {α : Type} (act : LinkAct α) : LinkAct Unit := tryCatch (discard act) fun _ => pure ()

def claim (interface : UInt8) : LinkAct Unit := do
  onBus fun n => Bus.claim n interface
  modify fun link => { link with handle := { link.handle with
    remembered := interface :: link.handle.remembered.filter (· != interface) } }

def unclaim (interface : UInt8) : LinkAct Unit := do
  onBus fun n => Bus.unclaim n interface
  modify fun link => { link with handle := { link.handle with
    remembered := link.handle.remembered.filter (· != interface) } }

def perform : InterfaceCall → LinkAct Unit
  | .detach interface => onBus fun n => Bus.detach n interface
  | .attach interface => onBus fun n => Bus.attach n interface
  | .claim interface => claim interface
  | .unclaim interface => unclaim interface
  | .choose interface alternate => onBus fun n => Bus.altSetting n interface alternate

instance : UsbStack Link where
  getConfiguration := (onBus Bus.getConfiguration).run.run
  setConfiguration value := (onBus fun n => Bus.setConfiguration n value).run.run
  kernelDriverActive interface := (onBus fun n => Bus.kernelDriverActive n interface).run.run
  perform call := (perform call).run.run
  configurations := (BusDevice.configurations <$> onBus Bus.deviceDescriptor).run.run
  configDescriptor index := (onBus fun n => Bus.configDescriptor n index).run.run

def holder (link : Link) : Holder Link where
  stack := link
  account := { claimed := link.handle.claimed }

end Link

/-- The link that a holder over the bus amounts to: its handle has the claims of the account. -/
def Holder.link (holder : Holder Link) : Link :=
  { holder.stack with handle := { holder.stack.handle with claimed := holder.account.claimed } }

namespace Link

def held {α : Type} (act : HolderAct Link α) : LinkAct α := fun link =>
  let (result, holder) := act.run.run link.holder
  (result, holder.link)

def select (value : UInt8) (selections : List Selection) : LinkAct (List Pipe) :=
  held (Holder.select value selections)

def release : LinkAct Unit := held Holder.release

def close : LinkAct Unit := do
  release
  let remembered := (← get).handle.remembered.mergeSort
  remembered.forM fun interface => attempt (unclaim interface)
  onBus fun _ => Bus.record .close

def closed (bus : Bus) (handle : Option Handle) : Bus :=
  handle.elim bus fun handle => (close.run.run ⟨bus, handle⟩).2.bus

def controlTimeout : Nat := 5000

/-- The standard request for a descriptor. -/
def getDescriptor : UInt8 := 0x06

/-- An operation with its failure as the driver sees it. -/
def answer {α : Type} (act : LinkAct α) (link : Link) : Except UsbError α × Link :=
  let (result, link) := act.run.run link
  (result.mapError UsbError.ofBus, link)

instance : Host Link where
  getDescriptor kind index language length :=
    let value := (kind.code.toUInt16 <<< 8) ||| index.toUInt16
    answer (onBus fun n =>
      Bus.controlIn n 0x80 getDescriptor value language length controlTimeout)
  selectConfiguration value selections := answer (select value selections)
  releaseInterfaces link := (answer release link).2
  bulkIn endpoint length timeout := answer (onBus fun n => Bus.bulkIn n endpoint length timeout)
  bulkOut endpoint data timeout := answer (onBus fun n => Bus.bulkOut n endpoint data timeout)
  interruptIn endpoint length timeout :=
    answer (onBus fun n => Bus.interruptIn n endpoint length timeout)
  resetPipe endpoint := answer (onBus fun n => Bus.clearHalt n endpoint)
  controlOut request := answer (onBus fun n => Bus.controlOut n request controlTimeout)
  setIdle _ := answer (attempt (onBus Bus.portNumbers))
  speed link := link.handle.speed
  startLoop _ link := (.ok (), link)
  stopLoop _ _ _ link := (.ok (), link)

end Link

end ModemLink
