import ModemLink.Codec.Frame
import ModemLink.Usb.Interface

/-!
# Pipes and configurations

The pipes a transport opens for a selection, the role each plays for a modem, and the model that
the roles amount to.
-/

namespace ModemLink

inductive EndpointType where
  | control
  | isochronous
  | bulk
  | interrupt
  deriving DecidableEq, Repr

/-- The two low attribute bits. -/
def EndpointType.ofAttributes (attributes : UInt8) : EndpointType :=
  if attributes &&& 3 = 0 then .control
  else if attributes &&& 3 = 1 then .isochronous
  else if attributes &&& 3 = 2 then .bulk
  else .interrupt

structure Pipe where
  interface : UInt8
  endpoint : UInt8
  type : EndpointType
  maxPacket : UInt16
  deriving DecidableEq, Repr

/-- The direction bit of an endpoint address. -/
def isInEndpoint (address : UInt8) : Bool := address &&& 0x80 != 0

def Pipe.isIn (pipe : Pipe) : Bool := isInEndpoint pipe.endpoint

inductive PipeRole where
  | bulkIn
  | bulkOut
  | interrupt
  deriving DecidableEq, Repr

def Pipe.role? (pipe : Pipe) : Option PipeRole :=
  match pipe.type, pipe.isIn with
  | .bulk, true => some .bulkIn
  | .bulk, false => some .bulkOut
  | .interrupt, true => some .interrupt
  | _, _ => none

structure PipeInfo where
  role : PipeRole
  /-- Position in the transport's list of pipes. -/
  index : Nat
  endpoint : UInt8
  maxPacket : UInt16
  interface : UInt8
  deriving DecidableEq, Repr

def maxPipes : Nat := 16

namespace PipeInfo

def ofPipe? (pipe : Pipe) (index : Nat) : Option PipeInfo :=
  pipe.role?.map fun role =>
    { role, index, endpoint := pipe.endpoint, maxPacket := pipe.maxPacket
      interface := pipe.interface }

/-- The pipes that have a role; `pipes` must fit the pipe table. -/
def classify (pipes : List Pipe) : Except DriverError (List PipeInfo) :=
  if maxPipes < pipes.length then
    .error (.insufficientResources s!"{pipes.length} pipes, at most {maxPipes}")
  else .ok (pipes.zipIdx.filterMap fun (pipe, index) => ofPipe? pipe index)

end PipeInfo

structure MuxConfig where
  enabled : Bool := false
  channels : Channels := {}
  /-- Interface of the underlying USB function. -/
  physicalInterface : UInt8 := 0
  /-- Interface of this logical device. -/
  interface : UInt8 := 0
  deriving DecidableEq, Repr

/-- The USB function itself rather than a channel multiplexed over it. -/
def MuxConfig.isPrimary (mux : MuxConfig) : Bool := mux.physicalInterface == mux.interface

inductive Model where
  /-- Bulk in and out with an interrupt pipe. -/
  | net
  /-- Bulk in and out alone, or a multiplexed channel. -/
  | netLike
  | none
  deriving DecidableEq, Repr

namespace Model

def name : Model → String
  | net => "Net"
  | netLike => "NetLike"
  | none => "None"

def classify (pipes : List PipeInfo) (mux : MuxConfig) : Model :=
  let has (role : PipeRole) : Bool := pipes.any fun pipe => pipe.role == role
  if mux.enabled && !mux.isPrimary then netLike
  else if has .bulkIn && has .bulkOut then
    if has .interrupt then net else netLike
  else none

end Model

/-- The active configuration of a started device. -/
structure UsbConfiguration where
  value : UInt8
  remoteWakeup : Bool
  /-- One entry per interface number, in ascending order. -/
  interfaces : List InterfaceEntry
  pipes : List PipeInfo
  model : Model
  vendor : VendorFeatures
  ecm : Bool
  deriving DecidableEq, Repr

/-- Adds `entry` to a table in ascending order, in place of an entry with its number. -/
def insertInterface (entry : InterfaceEntry) : List InterfaceEntry → List InterfaceEntry
  | [] => [entry]
  | e :: rest =>
      if entry.number < e.number then entry :: e :: rest
      else if entry.number = e.number then entry :: rest
      else e :: insertInterface entry rest

namespace UsbConfiguration

def pipe? (config : UsbConfiguration) (role : PipeRole) : Option PipeInfo :=
  config.pipes.find? fun pipe => pipe.role == role

/-- The interface that class requests address. -/
def controlInterface (config : UsbConfiguration) : UInt8 :=
  match config.pipe? .interrupt <|> config.pipe? .bulkIn with
  | some pipe => pipe.interface
  | none => (config.interfaces.head?.map InterfaceEntry.number).getD 0

/-- The configuration that a plan and the pipes opened for it make. -/
def build (header : ConfigHeader) (plan : InterfacePlan) (pipes : List Pipe) (mux : MuxConfig) :
    Except DriverError UsbConfiguration := do
  let infos ← PipeInfo.classify pipes
  let model := Model.classify infos mux
  if model = .none then throw .unrecognizedModel
  return {
    value := header.value
    remoteWakeup := header.remoteWakeup
    interfaces := plan.interfaces.foldl (fun table entry => insertInterface entry table) []
    pipes := infos
    model
    vendor := plan.vendor
    ecm := plan.ecm }

/-- A configuration is built from classified pipes that amount to a model. -/
theorem build_ok {header : ConfigHeader} {plan : InterfacePlan} {pipes : List Pipe}
    {mux : MuxConfig} {config : UsbConfiguration}
    (built : build header plan pipes mux = .ok config) :
    ∃ infos, Model.classify infos mux ≠ .none ∧ PipeInfo.classify pipes = .ok infos ∧
      config = {
        value := header.value
        remoteWakeup := header.remoteWakeup
        interfaces := plan.interfaces.foldl (fun table entry => insertInterface entry table) []
        pipes := infos
        model := Model.classify infos mux
        vendor := plan.vendor
        ecm := plan.ecm } := by
  unfold build at built
  cases classified : PipeInfo.classify pipes with
  | error e => simp [classified, bind, Except.bind] at built
  | ok infos =>
      simp only [classified, bind, Except.bind] at built
      split at built
      · cases built
      · rename_i known
        cases built
        exact ⟨infos, known, rfl, rfl⟩

end UsbConfiguration

end ModemLink
