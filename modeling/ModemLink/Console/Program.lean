import ModemLink.Console.Arguments
import ModemLink.Console.Failure
import ModemLink.Console.Help
import ModemLink.Console.LogFilter
import ModemLink.FileTree
import ModemLink.Settings.Reader
import ModemLink.Settings.Text
import ModemLink.Worker

/-!
# The program

One run of the program as a function of its surroundings: what it prints, what it logs, what it
saves and how it ends. It drives the configured device until it is interrupted.
-/

namespace ModemLink

structure Surroundings where
  home : String
  /-- The log filter of the environment. -/
  logFilter : Option String := none
  files : FileTree := {}
  bus : Bus := {}
  /-- The program is interrupted once it logs a message with this text. -/
  interruptAfter : Option String := none

structure LogLine where
  target : String
  level : LogLevel
  message : String
  deriving DecidableEq, Repr

def LogLine.text (line : LogLine) : String := line.level.label ++ " " ++ line.message

inductive OutputLine where
  | plain (text : String)
  | log (line : LogLine)
  deriving DecidableEq, Repr

structure Progress where
  lines : Array OutputLine := #[]
  /-- A settings file that was written: its path and its text. -/
  saved : Option (String × String) := none
  filter : LogFilter := {}
  interrupted : Bool := false

structure Transcript where
  /-- `none` while the program goes on. -/
  exitCode : Option Nat
  lines : List OutputLine := []
  errors : String := ""
  saved : Option (String × String) := none
  deriving DecidableEq, Repr

/-- The target of the messages of the program itself. -/
def logTarget : String := "usb_modem_driver"

namespace Transcript

/-- The lines that are no log lines. -/
def output (transcript : Transcript) : List String :=
  transcript.lines.filterMap fun
    | .plain text => some text
    | .log _ => none

def logs (transcript : Transcript) : List LogLine :=
  transcript.lines.filterMap fun
    | .plain _ => none
    | .log line => if line.target = logTarget then some line else none

end Transcript

abbrev Console (α : Type) := ExceptT Failure (ReaderT Surroundings (StateM Progress)) α

namespace Console

def print (lines : List String) : Console Unit :=
  modify fun p => { p with lines := p.lines ++ lines.toArray.map .plain }

def contains (part : List Char) : List Char → Bool
  | [] => part.isEmpty
  | c :: cs => part.isPrefixOf (c :: cs) || contains part cs

/-- Characters that would move a terminal are spelled out in a message. -/
def spellOut (c : Char) : List Char :=
  if ['\x07', '\x08', '\x0c', '\x1b', '\x7f'].contains c then
    "\\x".toList ++ (Text.hex 2 c.toNat).toList
  else if 0x80 ≤ c.toNat && c.toNat < 0xA0 then
    "\\u\x7b".toList ++ (Text.hex 2 c.toNat).toList ++ ['\x7d']
  else [c]

/-- Logs a message that the filter allows. What follows a line break in it is a plain line. The
answer is what is on the log line. -/
def logAs (target : String) (level : LogLevel) (message : String) : Console (Option String) := do
  if !(← get).filter.allows target level then return none
  match (String.ofList (message.toList.flatMap spellOut)).splitOn "\n" with
  | [] => return none
  | first :: rest =>
      let lines := .log ⟨target, level, first⟩ :: rest.map .plain
      modify fun p => { p with lines := p.lines ++ lines.toArray }
      return some first

def log (level : LogLevel) (message : String) : Console Unit := do
  match ← logAs logTarget level message, (← read).interruptAfter with
  | some line, some part =>
      if contains part.toList line.toList then modify ({ · with interrupted := true })
  | _, _ => return

def orFail {ε α : Type} (failure : ε → Failure) : Except ε α → Console α
  | .ok a => return a
  | .error e => throw (failure e)

/-! ## Settings and logging -/

def saveSettings : Console Unit := do
  let path := defaultSettingsPath (← read).home
  match ({} : Settings).render? with
  | some text => modify ({ · with saved := some (path, text) })
  | none => throw ⟨"Failed to save configuration", ["Failed to serialize configuration"]⟩
  print ["Configuration saved to: " ++ path]

def settingsError (e : SettingsError) : Failure := { message := e.message }

def loadError (path : String) (content : Except FileError Bytes) : Settings.LoadError → Failure
  | .unreadable =>
      { message := "Failed to read config file: " ++ path
        causes := [match content with
          | .error e => e.message
          | .ok _ => "stream did not contain valid UTF-8"] }
  | .malformed =>
      { message := "Failed to parse config file: " ++ path, causes := ["TOML parse error"] }
  | .invalid e => settingsError e

/-- The file that is read when none is named: the first that is there. -/
def defaultFile? (surroundings : Surroundings) : Option Bytes := do
  let candidates := [defaultSettingsPath surroundings.home, systemSettingsPath]
  let path ← candidates.find? surroundings.files.contains
  (surroundings.files.read path).toOption

/-- The settings in force: those of the named file or of the default one, with overrides. -/
def loadSettings (arguments : Arguments) : Console Settings := do
  let surroundings ← read
  let settings ←
    match arguments.config with
    | some path =>
        let content := surroundings.files.read path
        orFail (fun e => (loadError path content e).within "Failed to load configuration")
          (Settings.load content.toOption)
    | none => pure (Settings.loadOrDefault (defaultFile? surroundings))
  let settings := { settings with device := { settings.device with
    vendorId := arguments.vendorId.getD settings.device.vendorId
    productId := arguments.productId.getD settings.device.productId } }
  orFail settingsError settings.validate
  return settings

def invalidFilter (e : FilterError) : ClientError := .config ("Invalid log filter: " ++ e.message)

/-- What a second set-up of the log in one process comes to. -/
def alreadyLogging : ClientError :=
  .config ("Logging already initialized: " ++
    "a global default trace dispatcher has already been set")

/-- The filter of the environment goes before the chosen level. -/
def setupLogging (level : String) : Console Unit := do
  let environment := (← read).logFilter.bind fun text => (LogFilter.parse text).toOption
  let chosen := environment.elim (LogFilter.parse level) .ok
  let filter ← orFail (fun e => ⟨"Failed to setup logging", [(invalidFilter e).message]⟩) chosen
  modify ({ · with filter })
  discard (logAs "common::logging" .debug s!"Logging initialized (default level {level})")

/-! ## Listing devices -/

def hexWord (n : UInt16) : String := Text.hex 4 n.toNat

def summaryLine (s : DeviceSummary) : String :=
  "  " ++ hexWord s.vendorId ++ ":" ++ hexWord s.productId ++
    "  Bus " ++ Text.padLeft '0' 3 (toString s.bus) ++
    " Device " ++ Text.padLeft '0' 3 (toString s.address) ++ " Speed: " ++ s.speed.name

def listDevices : Console Unit := do
  let bus := (← read).bus
  match bus.initError with
  | some e => throw ⟨"Failed to create USB context", [e.message]⟩
  | none => pure ()
  let (result, _) := Bus.listDevices.run.run bus
  let devices ← orFail
    (fun e => { message := "Failed to list devices: " ++ (UsbError.ofBus e).message }) result
  if devices.isEmpty then print ["No USB devices found."]
  else print (s!"Found {devices.length} USB device(s):" :: "" :: devices.map summaryLine)

/-! ## Driving a device -/

/-- Asks the worker to attach a client. -/
def openClient (worker : Worker) : Console Worker := do
  match worker.answer .open with
  | (.ok (some (.outcome (.ok ()))), worker) =>
      log .info "Client attached"
      return worker
  | (.ok (some (.outcome (.error e))), worker) =>
      log .warn ((Failure.ofClient e).within "Open failed").line
      return worker
  | (.ok _, worker) =>
      log .warn "Driver worker dropped the Open reply: channel closed"
      return worker
  | (.error e, worker) =>
      log .warn ((Failure.ofClient e).within "Failed to send Open command").line
      return worker

def onEvent (attach : Bool) (worker : Worker) : DriverEvent → Console Worker
  | .deviceStarted vendorId productId model => do
      let device := s!"{hexWord vendorId}:{hexWord productId}"
      let port := worker.settings.session.portName
      discard (logAs "driver::session" .info s!"Started {device} on {port} as {model.name}")
      log .info s!"Device {device} started ({model.name})"
      if attach then openClient worker else return worker
  | .deviceRemoved => do log .info "Device removed"; return worker
  | .linkDown => do log .warn "Modem link down"; return worker
  | .deregistered => do log .info "Deregistered ahead of sleep"; return worker
  | .flowControl command => do log .info ("Flow control: " ++ command.name); return worker
  | .powerStateChanged level => do log .info ("Device power now " ++ level.name); return worker
  | .received payload => do log .debug s!"Received {payload.length} bytes"; return worker

inductive Ending where
  | interrupted
  | failed (failure : Failure)
  /-- Nothing happens any more. -/
  | waiting

/-- Logs up to `n` events until an interrupt comes or the worker is gone. -/
def serve (attach : Bool) : Nat → Worker → Console (Ending × Worker)
  | 0, worker => return (.waiting, worker)
  | n + 1, worker => do
      if (← get).interrupted then
        log .info "Received Ctrl+C, shutting down gracefully..."
        return (.interrupted, worker)
      match worker.bridge.receiveEvent with
      | (none, _) => return (.waiting, worker)
      | (some (.error e), bridge) =>
          return (.failed ((Failure.ofClient e).within "Driver worker stopped"),
            { worker with bridge })
      | (some (.ok event), bridge) =>
          let worker ← onEvent attach { worker with bridge } event
          serve attach n worker.settle

/-- Every octet that comes in is the reason for at most one event. -/
def eventBound (bus : Bus) : Nat :=
  let inbound := bus.devices.flatMap fun device => device.bulk ++ device.interrupts
  let octets := inbound.foldl (fun n item => n + (item.toOption.getD []).length + 1) 0
  octets + 4 * bus.devices.length + 4

/-- The file of a store. Directories on the way to a missing one are made. -/
def storeDisk : Except FileError Bytes → Disk
  | .ok content => { content := some content }
  | .error .notFound => {}
  | .error .isDirectory => { content := some [], readable := false, writable := false }
  | .error _ => { writable := false }

/-- Drives the device until the program is interrupted; answers whether it was. -/
def drive (settings : Settings) (vendorId productId : UInt16) (attach : Bool) : Console Bool := do
  let surroundings ← read
  let storePath := settings.storePath surroundings.home
  let disk := storePath.map fun path => storeDisk (surroundings.files.read path)
  let options := settings.sessionOptions
  let worker := Worker.launch { vendorId, productId, session := options } surroundings.bus disk
  log .info "Press Ctrl+C to shutdown"
  let (ending, worker) ← serve attach (eventBound surroundings.bus) worker.settle
  match ending with
  | .waiting => return false
  | .interrupted => pure ()
  | .failed _ => pure ()
  log .info "Shutting down driver worker..."
  let (answered, worker) := worker.answer .shutdown
  match answered with
  | .ok _ => pure ()
  | .error e => log .error ("Error shutting down driver worker: " ++ e.message)
  match worker.ended with
  | some (.error e) => log .error ("Driver worker failed: " ++ e.message)
  | _ => pure ()
  match ending with
  | .failed failure => throw failure
  | _ => return true

/-- The program for valid arguments; answers whether it came to an end. -/
def main (arguments : Arguments) : Console Bool := do
  if arguments.saveConfig then
    saveSettings
    return true
  let settings ← loadSettings arguments
  let level := arguments.logLevel.getD settings.driver.logLevel
  setupLogging level
  log .info (Help.programName ++ " v" ++ Help.version)
  log .info ("Log level: " ++ level)
  if arguments.listDevices then
    listDevices
    return true
  let vendorId ← orFail settingsError settings.vendorId
  let productId ← orFail settingsError settings.productId
  log .info (s!"Driving {hexWord vendorId}:{hexWord productId} as " ++ settings.driver.portName)
  drive settings vendorId productId arguments.open

end Console

def runProgram (surroundings : Surroundings) (arguments : List String) : Transcript :=
  match Invocation.ofArguments arguments with
  | .shortHelp => { exitCode := some 0, lines := Help.shortText.map .plain }
  | .longHelp => { exitCode := some 0, lines := Help.longText.map .plain }
  | .version => { exitCode := some 0, lines := Help.versionText.map .plain }
  | .invalid => { exitCode := some 2, errors := Help.invalidText }
  | .run arguments =>
      let (result, progress) := ((Console.main arguments).run.run surroundings).run {}
      let transcript : Transcript :=
        { exitCode := some 0, lines := progress.lines.toList, saved := progress.saved }
      match result with
      | .ok true => transcript
      | .ok false => { transcript with exitCode := none }
      | .error failure => { transcript with exitCode := some 1, errors := failure.text }

end ModemLink
