import ModemLink.Proofs.Session.Scope
import ModemLink.Scripted
import ModemLink.Worker

/-!
# Handling commands

Every command is answered once, with the result of the operation it stands for. A failure that says
the device is of no more use costs the session, which is removed once and whose key is free again;
after any other outcome the session goes on.
-/

namespace ModemLink

open Act Footprint Session

variable {η α : Type}

/-! ## Errors -/

/-- The failures after which the device is of no more use. -/
def DriverError.costsDevice : DriverError → Bool
  | .deletePending | .invalidDescriptor .. | .unrecognizedModel => true
  | .transport .noDevice | .transport .notFound => true
  | _ => false

theorem DriverError.isFatal_eq_costsDevice : DriverError.isFatal = DriverError.costsDevice := by
  funext e
  cases e with
  | transport cause => cases cause <;> rfl
  | _ => rfl

/-! ## Removals -/

def Event.isRemoval : Event → Bool
  | .notify .deviceRemoved => true
  | _ => false

/-- How often the layer above was told that the device has gone. -/
def Session.removals (session : Session η) : Nat := session.trace.toList.countP Event.isRemoval

section Removals

variable [Host η]

theorem Footprint.misses_removals {F : Footprint}
    (told : ¬F.touches (.event (.notify .deviceRemoved))) :
    F.Misses (Session.removals : Session η → Nat) := by
  refine misses_countP fun event removal => ?_
  unfold Event.isRemoval at removal
  split at removal
  · exact told
  · cases removal

/-- A removal is told once, whatever the host answers. -/
theorem Session.surpriseRemove_removals (session : Session η) :
    (session.after .surpriseRemove).removals = session.removals + 1 := by
  have passes {act : Act η Unit} (within : act.Within (operating η).lenient) :
      (attempt act).Passes removals :=
    (within.spares (misses_removals nofun)).attempt
  have changed (f : Device → Device) : (onDevice f : Act η Unit).Passes removals :=
    fun s => ⟨(), _, exec_onDevice f s, rfl⟩
  have untimed : (cancelIdleTimer : Act η Unit).Passes removals :=
    changed fun d => { d with power := { d.power with idleDeadline := none } }
  have told : (notify .deviceRemoved : Act η Unit).Brings removals session.removals
      (session.removals + 1) := by
    rintro s same
    refine ⟨(), _, exec_notify _ s, ?_⟩
    simp [removals, Event.isRemoval] at same ⊢
    exact same
  have removed : (surpriseRemove : Act η Unit).Brings removals session.removals
      (session.removals + 1) := by
    refine (passes (within_applies .surpriseRemove nofun)).brings.seq fun _ => ?_
    refine Brings.seq (Passes.brings ((passes (within_stopLoop _ _ _)).seq fun _ => ?_))
      fun _ => ?_
    · exact (passes (within_stopLoop _ _ _)).seq fun _ =>
        (passes (within_stopLoop _ _ _)).seq fun _ => passes (within_stopLoop _ _ _)
    · exact (changed _).brings.seq fun _ => (changed _).brings.seq fun _ =>
        untimed.brings.seq fun _ => told
  obtain ⟨_, after, run, count⟩ := removed session rfl
  rwa [← show session.after .surpriseRemove = after from congrArg Prod.snd run] at count

end Removals

/-! ## Commands -/

namespace Command

variable [Host η]

/-- Why the command fails for a session, or for want of one. -/
def failure? (command : Command) (session : Option (Session η)) : Option DriverError :=
  match session with
  | none =>
      if command = .queryStatus then none
      else some (.invalidState Lifecycle.absent.name command.event)
  | some session =>
      match (command.act.exec session).1 with
      | .ok () => none
      | .error e => some e

/-- The answer that the command deserves. -/
def answer (command : Command) (session : Option (Session η)) : Reply :=
  match command with
  | .queryStatus => .status (session.elim {} Session.status)
  | _ =>
      .outcome (match command.failure? session with
        | none => .ok ()
        | some (.transport cause) => .error (.usb cause)
        | some e => .error (.driver e.message))

def isFatal (command : Command) (session : Option (Session η)) : Bool :=
  (command.failure? session).any DriverError.costsDevice

/-- The session as the command leaves it. -/
def leave (command : Command) (session : Session η) : Session η := (command.act.exec session).2

theorem within_act (command : Command) : (command.act : Act η Unit).Within
    (((operating η).allowing .system).allowing (.event (.notify .deregistration))) := by
  cases command with
  | «open» => exact within_open
  | close => exact within_close
  | send payload channel => exact within_send channel payload
  | setSystemPower level => exact within_setSystemPower level (.inr (.inl rfl)) (.inl rfl)
  | setDevicePower level => exact within_setDevicePower level
  | queryStatus | shutdown => exact within_pure ()

theorem held_of_isFatal {command : Command} {session : Option (Session η)}
    (fatal : command.isFatal session = true) : ∃ held, session = some held := by
  cases session with
  | some held => exact ⟨held, rfl⟩
  | none => cases command <;> cases fatal

theorem leave_key (command : Command) (session : Session η) :
    (command.leave session).key = session.key :=
  (command.within_act session).1.key

theorem leave_removals (command : Command) (session : Session η) :
    (command.leave session).removals = session.removals := by
  refine Misses.reaches (misses_removals ?_) (command.within_act session).1
  rintro (told | told | told) <;> cases told

theorem execute_eq (command : Command) (served : command ≠ .shutdown)
    (session : Option (Session η)) :
    command.execute session =
      { reply := some (command.answer session)
        fatal := command.isFatal session
        session := session.map command.leave } := by
  have performed (other : command ≠ .queryStatus) : command.perform session =
      { reply := some (.outcome (match command.failure? session with
          | none => .ok ()
          | some (.transport cause) => .error (.usb cause)
          | some e => .error (.driver e.message)))
        fatal := command.isFatal session
        session := session.map command.leave } := by
    -- Every failure is turned into the client's error by its kind alone.
    cases session with
    | none =>
        simp [perform, failure?, isFatal, other, ClientError.ofDriver,
          DriverError.isFatal_eq_costsDevice]
    | some session =>
        cases run : command.act.exec session with
        | mk result after =>
            cases result with
            | ok _ => simp [perform, failure?, isFatal, leave, run]
            | error e =>
                cases e <;> simp [perform, failure?, isFatal, leave, run, ClientError.ofDriver,
                  DriverError.isFatal_eq_costsDevice]
  cases command with
  | shutdown => exact absurd rfl served
  | queryStatus => cases session <;> rfl
  | _ =>
      refine performed ?_
      rintro ⟨⟩

/-- A client that hears of a disconnect has cost the session. -/
theorem isFatal_of_disconnect (command : Command) {session : Option (Session η)} {e : ClientError}
    (answered : command.answer session = .outcome (.error e))
    (disconnects : e.isDisconnect = true) : command.isFatal session = true := by
  have outcome (failure : Option DriverError)
      (answered : (match failure with
        | none => .ok ()
        | some (.transport cause) => .error (.usb cause)
        | some e => .error (.driver e.message) : Except ClientError Unit) = .error e) :
      failure.any DriverError.costsDevice = true := by
    split at answered
    · cases answered
    · cases answered
      rename_i cause
      cases cause <;> first | rfl | cases disconnects
    · cases answered
      cases disconnects
  cases command with
  | queryStatus => cases answered
  | _ => exact outcome _ (Reply.outcome.inj answered)

end Command

namespace Post

variable [Host η]

theorem handle_eq (post : Post η) {command : Command} (served : command ≠ .shutdown) :
    post.handle command =
      if command.isFatal post.session then
        { reply := some (command.answer post.session)
          lost := post.session.map fun session => (command.leave session).after .surpriseRemove
          post := post.release }
      else
        { reply := some (command.answer post.session)
          lost := none
          post := { post with session := post.session.map command.leave } } := by
  have released :
      ({ post with session := post.session.map command.leave } : Post η).release =
        post.release := by
    cases held : post.session <;> simp [release, held, Command.leave_key]
  unfold handle
  rw [command.execute_eq served]
  dsimp only
  split
  · simp only [detach, released, Option.map_map]
    rfl
  · rfl

theorem handle_shutdown (post : Post η) :
    post.handle .shutdown = { reply := none, lost := none, post } := rfl

/-- A command is answered once. If it fails fatally, the session has been removed once after it and
its key is free again; otherwise the session that the command leaves is kept with its key. -/
theorem handle_answers_once (post : Post η) (command : Command) (served : command ≠ .shutdown) :
    let handling := post.handle command
    handling.reply = some (command.answer post.session) ∧
      (command.isFatal post.session = true →
        handling.post.session = none ∧
        ∃ session, post.session = some session ∧
          handling.lost = some ((command.leave session).after .surpriseRemove) ∧
          ((command.leave session).after .surpriseRemove).removals = session.removals + 1 ∧
          ∀ key, handling.post.registry.lookup key =
            if key = session.key then none else post.registry.lookup key) ∧
      (command.isFatal post.session = false →
        handling.post.session = post.session.map command.leave ∧
        handling.lost = none ∧
        handling.post.registry = post.registry ∧
        ∀ session : Session η, (command.leave session).key = session.key ∧
          (command.leave session).removals = session.removals) ∧
      ∀ e, handling.reply = some (.outcome (.error e)) → e.isDisconnect = true →
        handling.post.session = none := by
  intro handling
  have handled : handling = _ := handle_eq post served
  cases fatal : command.isFatal post.session with
  | true =>
      rw [if_pos fatal] at handled
      obtain ⟨session, held⟩ := Command.held_of_isFatal fatal
      have told : ((command.leave session).after .surpriseRemove).removals =
          session.removals + 1 := by
        rw [surpriseRemove_removals, command.leave_removals]
      have freed (key : AdapterKey) : handling.post.registry.lookup key =
          if key = session.key then none else post.registry.lookup key := by
        rw [handled]
        simp only [release, held, Option.elim_some]
        exact Registry.lookup_drop _ _ _
      refine ⟨by rw [handled], fun _ => ⟨by rw [handled]; rfl, session, held, ?_, told, freed⟩,
        nofun, fun _ _ _ => by rw [handled]; rfl⟩
      rw [handled, held]
      rfl
  | false =>
      rw [if_neg (by simp [fatal])] at handled
      refine ⟨by rw [handled], nofun, fun _ => ⟨by rw [handled], by rw [handled], by rw [handled],
        fun session => ⟨command.leave_key session, command.leave_removals session⟩⟩, ?_⟩
      intro e replied disconnects
      rw [handled] at replied
      rw [command.isFatal_of_disconnect (Option.some.inj replied) disconnects] at fatal
      cases fatal

/-- The device went while the system slept, so waking it finds no device. -/
theorem handle_answers_once_device_gone :
    let asleep := (Session.create ⟨220, 17, 0⟩ ({} : ScriptedModem) {} {}).run
      [.start, .open, .power (.setSystem .sleeping3), .power (.setDevice .d3),
        .power (.setSystem .working)]
    let session := { asleep with host := asleep.host.inject .getDescriptor [.fail .noDevice] }
    let post : Post ScriptedModem :=
      { session := some session, registry := ⟨[(session.key, ())]⟩ }
    let handling := post.handle (.setDevicePower .d0)
    handling.reply = some (.outcome (.error (.usb .noDevice))) ∧ handling.post.session = none ∧
      handling.post.registry.lookup session.key = none := by
  intro asleep session post handling
  have failed :
      Command.failure? (.setDevicePower .d0) post.session = some (.transport .noDevice) := by
    decide +kernel
  have fatal : Command.isFatal (.setDevicePower .d0) post.session = true := by
    rw [Command.isFatal, failed]
    rfl
  have answered : Command.answer (.setDevicePower .d0) post.session =
      .outcome (.error (.usb .noDevice)) := by
    simp only [Command.answer, failed]
  obtain ⟨replied, lost, -⟩ := handle_answers_once post (.setDevicePower .d0) nofun
  clear_value session
  obtain ⟨empty, held, same, -, -, freed⟩ := lost fatal
  obtain rfl : held = session := (Option.some.inj same).symm
  exact ⟨replied.trans (congrArg some answered), empty, (freed _).trans (if_pos rfl)⟩

end Post

theorem Worker.resume_registry (worker : Worker) (lost : Option (Session Link))
    (post : Post Link) : (worker.resume lost post).registry = post.registry := by
  unfold resume
  split <;> rfl

/-- The worker goes on with what the command has left of its post. -/
theorem Worker.execute_post (worker : Worker) {command : Command} (served : command ≠ .shutdown) :
    let handling := worker.post.handle command
    (worker.execute command).1 = handling.reply ∧
      (worker.execute command).2.registry = handling.post.registry ∧
      (worker.execute command).2.attachment.session? =
        handling.post.session.map fun session => { session with trace := #[] } := by
  intro handling
  have handled : handling = _ := worker.post.handle_eq served
  have executed : worker.execute command =
      (handling.reply, worker.resume handling.lost handling.post) := rfl
  rw [executed]
  refine ⟨rfl, ?_, ?_⟩
  · exact worker.resume_registry _ _
  · cases fatal : command.isFatal worker.post.session with
    | true =>
        rw [if_pos fatal] at handled
        obtain ⟨session, held⟩ := Command.held_of_isFatal fatal
        rw [handled, held]
        rfl
    | false =>
        rw [if_neg (by simp [fatal])] at handled
        rw [handled]
        cases held : worker.attachment with
        | detached resources => simp [resume, post, held, Attachment.session?]
        | attached session => simp [resume, post, held, Attachment.session?, keep]

end ModemLink
