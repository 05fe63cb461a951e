import ModemLink.Session.Pipes

/-!
# Steps of the service loops

The read loop fills the read queue from the bulk-in pipe. The dispatch loop cuts what was read into
frames, delivers data and obeys and acknowledges flow control. The write loop sends control frames
ahead of data frames. The interrupt loop watches CDC notifications.
-/

namespace ModemLink

/-- Whether a loop goes on at once or waits to be kicked. -/
inductive LoopStep where
  | busy
  | idle
  deriving DecidableEq, Repr

namespace Session

variable {η : Type} [Host η]

def ioRead : UInt32 := 1

def ioWrite : UInt32 := 2

def readTimeout : Nat := 100

def writeTimeout : Nat := 5000

def interruptTimeout : Nat := 500

/-- The largest frame with flags, header and check octet. -/
def readBufferLength : Nat := Frame.maxPayload + 8

def interruptBufferLength : Nat := 64

def readStep : Act η LoopStep := do
  match (← get).loops.read.endpoint with
  | none => return .idle
  | some endpoint =>
      Act.onDevice fun d => d.setBusy ioRead
      let result ← Act.bulkIn endpoint readBufferLength readTimeout
      Act.onDevice fun d => d.clearBusy ioRead
      match result with
      | .ok [] | .error .timeout => return .busy
      | .ok buffer =>
          Act.recordPipe .input result
          Act.onQueues fun q => q.pushRead buffer
          return .busy
      | .error _ =>
          Act.recordPipe .input result
          return .busy

/-- Hands a payload to the layer above; an empty one is not worth a word. -/
def deliver (payload : Bytes) : Act η Unit := do
  if payload.isEmpty then return
  Act.onStats fun s => s.recordRx payload.length
  Act.notify (.received payload)

def recordDrop : Act η Unit := Act.onStats TransferStats.recordDrop

def obey (channels : Channels) (message : FlowControl) : Act η Unit := do
  Act.onDevice fun d => { d with txPaused := message.command == .pause }
  Act.notify (.flowControl message.command)
  if message.isRequest then
    match Frame.encode channels .control message.ack.encode with
    | .ok frame => Act.onQueues fun q => q.pushControl frame
    | .error _ => pure ()

def dispatchControl (channels : Channels) (frame : Bytes) : Act η Unit := do
  match Frame.decode channels .control true frame with
  | .payload _ data =>
      match FlowControl.decode data with
      | .ok message => obey channels message
      | .error _ => return
  | .passthrough _ | .notAFrame _ | .dropped _ => recordDrop

def dispatchFrame (mux : MuxConfig) (frame : Bytes) : Act η Unit := do
  match Frame.decode mux.channels .data mux.enabled frame with
  | .passthrough data => deliver data
  | .payload _ data => deliver data
  | .notAFrame _ => deliver frame
  | .dropped (.dlciMismatch _ found) =>
      if found = mux.channels.control then dispatchControl mux.channels frame else recordDrop
  | .dropped _ => recordDrop

/-- The frames of one inbound buffer, or the buffer as it is without the multiplexer. -/
def pieces (mux : MuxConfig) (buffer : Bytes) : List Bytes :=
  if mux.enabled then Frame.split buffer else [buffer]

def dispatchBuffer (buffer : Bytes) : Act η Unit := do
  let mux := (← Act.device).mux
  (pieces mux buffer).forM (dispatchFrame mux)

def dispatchStep : Act η LoopStep := do
  match (← Act.device).queues.popRead with
  | (none, _) => return .idle
  | (some buffer, queues) =>
      Act.onQueues fun _ => queues
      dispatchBuffer buffer
      return .busy

def transmit (endpoint : UInt8) (frame : Bytes) : Act η Unit := do
  Act.onDevice fun d => d.setBusy ioWrite
  let result ← Act.bulkOut endpoint frame writeTimeout
  Act.onDevice fun d => d.clearBusy ioWrite
  Act.recordPipe .output result
  match result with
  | .ok sent => Act.onStats fun s => s.recordTx sent
  | .error _ => pure ()

def writeStep : Act η LoopStep := do
  match (← get).loops.write.endpoint with
  | none => return .idle
  | some endpoint =>
      let device ← Act.device
      match device.queues.popFrame device.txPaused with
      | (none, _) => return .idle
      | (some frame, queues) =>
          Act.onQueues fun _ => queues
          transmit endpoint frame
          return .busy

/-- Notification codes of the CDC class. -/
def networkConnection : UInt8 := 0x00

def responseAvailable : UInt8 := 0x01

/-- A notification of at least a whole header. -/
def onNotification (data : Bytes) : Act η Unit := do
  match data with
  | _ :: code :: lo :: hi :: _ :: _ :: _ :: _ :: _ =>
      if code = networkConnection then
        if wordOfOctets lo hi = 0 then Act.notify .linkDown
      else if code = responseAvailable then
        Act.onDevice fun d => { d with inflightResponses := d.inflightResponses + 1 }
        Act.onQueues fun q => { q with notification := some data }
  | _ => return

def interruptStep : Act η LoopStep := do
  match (← get).loops.interrupt.endpoint with
  | none => return .idle
  | some endpoint =>
      let result ← Act.interruptIn endpoint interruptBufferLength interruptTimeout
      match result with
      | .ok data =>
          Act.recordPipe .interrupt result
          onNotification data
      | .error .timeout => pure ()
      | .error _ => Act.recordPipe .interrupt result
      return .busy

def step : LoopName → Act η LoopStep
  | .read => readStep
  | .write => writeStep
  | .dispatch => dispatchStep
  | .interrupt => interruptStep

end Session

end ModemLink
