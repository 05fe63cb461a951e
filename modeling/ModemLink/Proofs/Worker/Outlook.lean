import ModemLink.Proofs.Bus.Roster
import ModemLink.Proofs.Worker.Commands
import ModemLink.Worker.Run

/-!
# What the worker makes of the bus

The outlook of a worker is the roster of its bus, the device that its session uses, if there is one,
with the key that the session was given, and the registry. Each move of the worker is stated by what
it makes of that.
-/

namespace ModemLink

open Act Footprint

namespace Roster

def plug (roster : Roster) (listing : Listing) : Roster where
  devices := roster.devices ++ [listing]
  events := roster.events ++ [.arrived roster.devices.length]

def unplug (roster : Roster) (n : Nat) : Roster where
  devices := roster.devices.modify n fun listing => { listing with present := false }
  events := roster.events ++ [.left n]

variable (roster : Roster)

theorem device_plug (listing : Listing) {n : Nat} (listed : n < roster.devices.length) :
    (roster.plug listing).device n = roster.device n := by
  simp [plug, device, List.getD, List.getElem?_append_left listed]

theorem device_unplug (m n : Nat) :
    (roster.unplug m).device n = roster.device n ∨
      m = n ∧ (roster.unplug m).device n = { roster.device n with present := false } := by
  by_cases listed : n < roster.devices.length
  · by_cases same : m = n
    · right
      subst same
      simp [unplug, device, listed]
    · left
      simp [unplug, device, List.getD, same]
  · left
    have beyond := List.getElem?_eq_none (Nat.le_of_not_lt listed)
    simp [unplug, device, List.getD, List.getElem?_modify, beyond]

end Roster

namespace Bus

theorem roster_plug (bus : Bus) (device : BusDevice) :
    (bus.plug device).roster = bus.roster.plug device.listing := by
  simp [roster, plug, Roster.plug]

theorem roster_unplug (bus : Bus) (n : Nat) : (bus.unplug n).roster = bus.roster.unplug n := by
  have marked : (bus.devices.modify n fun d => { d with present := false }).map
      BusDevice.listing = (bus.devices.map BusDevice.listing).modify n fun listing =>
        { listing with present := false } := by
    induction bus.devices generalizing n with
    | nil => simp
    | cons d devices ih =>
        cases n with
        | zero => rfl
        | succ n => simp [ih]
  simp only [roster, unplug, modifyDevice, Roster.unplug, marked]

end Bus

structure Outlook where
  watching : Bool
  vendor : UInt16
  product : UInt16
  roster : Roster
  inUse : Option (Nat × AdapterKey)
  registry : Registry Unit

namespace Outlook

/-- The device that arrived or left is of the kind that the worker looks for. -/
def Concerns (o : Outlook) (n : Nat) : Prop :=
  (o.roster.device n).vendorId = o.vendor ∧ (o.roster.device n).productId = o.product

def Offers (o : Outlook) (n : Nat) : Prop := o.roster.Offers o.vendor o.product n

/-- The oldest event is no longer waiting. -/
def shift (o : Outlook) : Outlook :=
  { o with roster := { o.roster with events := o.roster.events.tail } }

/-- No device is in use any more, and the key of the one that was is free. -/
def idle (o : Outlook) : Outlook :=
  { o with inUse := none, registry := o.inUse.elim o.registry fun use => o.registry.drop use.2 }

/-- Device `n` is at the address of the key. -/
def Locates (o : Outlook) (n : Nat) (key : AdapterKey) : Prop :=
  key.bus = (o.roster.device n).bus ∧ key.address = (o.roster.device n).address

/-- What handling the oldest event can make of an outlook. -/
inductive Handles (o : Outlook) : PlugEvent → Outlook → Prop
  /-- An arrival is no news to a worker with a session or if it concerns another kind of device, nor
  is it one that some other device has left. -/
  | ignore (event : PlugEvent)
      (arrival : ∀ n, event = .arrived n → o.Concerns n → o.inUse ≠ none)
      (departure : ∀ n m key, event = .left n → o.inUse = some (m, key) → o.Concerns n →
        ¬o.Locates n key) :
      Handles o event o.shift
  | miss (n : Nat) (concerns : o.Concerns n) (free : o.inUse = none) :
      Handles o (.arrived n) o.shift
  | take (n m : Nat) (key : AdapterKey) (registry : Registry Unit) (free : o.inUse = none)
      (offers : o.Offers m) (locates : o.Locates m key)
      (registered : o.registry.register key () = .ok registry) :
      Handles o (.arrived n) { o.shift with inUse := some (m, key), registry }
  | leave (n : Nat) : Handles o (.left n) o.shift.idle

end Outlook

namespace Worker

def outlook (worker : Worker) : Outlook where
  watching := worker.watching
  vendor := worker.settings.vendorId
  product := worker.settings.productId
  roster := worker.bus.roster
  inUse := worker.attachment.session?.map fun session => (session.host.handle.device, session.key)
  registry := worker.registry

/-! ## Parts of a move -/

theorem outlook_keep (worker : Worker) (session : Session Link) :
    (worker.keep session).outlook =
      { worker.outlook with
        roster := session.host.bus.roster
        inUse := some (session.host.handle.device, session.key) } := rfl

theorem outlook_release (worker : Worker) (session : Session Link) :
    (worker.release session).outlook =
      { worker.outlook with roster := session.host.bus.roster, inUse := none } := by
  have closed : (Link.close.run.run session.host).2.bus.roster = session.host.bus.roster :=
    congrArg Prod.fst (Link.keeps_close session.host)
  simp [outlook, release, publish, bus, Attachment.bus, Attachment.session?, closed]

theorem outlook_setBus (worker : Worker) (bus : Bus) :
    (worker.setBus bus).outlook = { worker.outlook with roster := bus.roster } := by
  cases held : worker.attachment <;>
    simp [outlook, setBus, Worker.bus, held, Attachment.setBus, Attachment.bus,
      Attachment.session?]

theorem outlook_free (worker : Worker) {post : Post Link} (free : post.session = none) :
    (worker.resume none post).outlook = { worker.outlook with registry := post.registry } := by
  simp only [resume, free]
  rfl

section Held

variable {worker : Worker} {session after : Session Link} {F : Footprint}

theorem outlook_of_held (held : worker.attachment = .attached session) :
    worker.outlook.roster = session.host.bus.roster ∧
      worker.outlook.inUse = some (session.host.handle.device, session.key) := by
  simp [outlook, bus, held, Attachment.bus, Attachment.session?]

theorem outlook_keep_of_reaches (held : worker.attachment = .attached session)
    (reaches : F.Reaches session after) : (worker.keep after).outlook = worker.outlook := by
  have place := Link.place_of_reaches reaches
  obtain ⟨roster, inUse⟩ := outlook_of_held held
  rw [outlook_keep, show after.host.bus.roster = session.host.bus.roster from
    congrArg Prod.fst place, show after.host.handle.device = session.host.handle.device from
    congrArg Prod.snd place, reaches.key, ← roster, ← inUse]

theorem outlook_lost (held : worker.attachment = .attached session)
    (reaches : F.Reaches session after) :
    (worker.resume (some after) worker.post.release).outlook = worker.outlook.idle := by
  have place := Link.place_of_reaches reaches
  obtain ⟨roster, inUse⟩ := outlook_of_held held
  have released : worker.post.release.registry = worker.registry.drop session.key := by
    simp [post, Post.release, held, Attachment.session?]
  simp only [resume]
  rw [outlook_release, show after.host.bus.roster = session.host.bus.roster from
    congrArg Prod.fst place, ← roster, Outlook.idle, inUse, released]
  rfl

theorem outlook_kept (held : worker.attachment = .attached session)
    (reaches : F.Reaches session after) :
    (worker.resume none ⟨some after, worker.registry⟩).outlook = worker.outlook :=
  outlook_keep_of_reaches held reaches

end Held

/-! ## Moves -/

theorem plug_outlook (worker : Worker) (device : BusDevice) :
    (worker.next (.plug device)).outlook =
      { worker.outlook with roster := worker.outlook.roster.plug device.listing } := by
  simp only [next, outlook_setBus, Bus.roster_plug]
  rfl

theorem unplug_outlook (worker : Worker) (n : Nat) :
    (worker.next (.unplug n)).outlook =
      { worker.outlook with roster := worker.outlook.roster.unplug n } := by
  simp only [next, outlook_setBus, Bus.roster_unplug]
  rfl

theorem loops_outlook (worker : Worker) : (worker.next .loops).outlook = worker.outlook := by
  simp only [next, runLoops]
  split
  · rfl
  · rename_i session held
    exact outlook_keep_of_reaches held (Session.within_runLoops session).1

theorem detach_outlook (worker : Worker) : worker.detach.outlook = worker.outlook.idle := by
  cases held : worker.attachment with
  | detached resources =>
      simp [detach, post, Post.detach, Post.release, resume, held, Attachment.session?, outlook,
        Outlook.idle, bus, Attachment.bus]
  | attached session =>
      have detached : worker.detach =
          worker.resume (some (session.after .surpriseRemove)) worker.post.release := by
        simp only [detach, Post.detach, post, held, Attachment.session?, Option.map_some]
        rfl
      rw [detached]
      exact outlook_lost held (F := everything) (Session.within_surpriseRemove trivial session).1

theorem within_tend : tend.Within everything :=
  within_get.seq fun _ => (Session.within_pollIdle _).attempt.seq fun _ =>
    Session.within_checkHealth

theorem poll_attached {worker : Worker} {session : Session Link}
    (held : worker.attachment = .attached session) :
    worker.poll = match tend.exec session with
      | (.ok (), session) => worker.keep session
      | (.error _, session) => (worker.keep session).detach := by
  cases worker
  cases held
  rfl

/-- A poll that fails costs the session. -/
theorem poll_outlook (worker : Worker) :
    (worker.next .poll).outlook = worker.outlook ∨
      (worker.next .poll).outlook = worker.outlook.idle ∧
        ∃ session e, worker.attachment.session? = some session ∧
          (tend.exec session).1 = .error e := by
  cases held : worker.attachment with
  | detached resources => exact .inl (by simp only [next, poll, held])
  | attached session =>
      have kept := outlook_keep_of_reaches held (within_tend session).1
      rw [next, poll_attached held]
      cases ran : tend.exec session with
      | mk result after =>
          rw [ran] at kept
          cases result with
          | ok _ => exact .inl kept
          | error e =>
              right
              refine ⟨?_, session, e, by simp [Attachment.session?], by rw [ran]⟩
              change ((worker.keep after).detach).outlook = _
              rw [detach_outlook, kept]

/-- A fatal command costs the session. -/
theorem command_outlook (worker : Worker) (command : Command) :
    (worker.next (.command command)).outlook = worker.outlook ∨
      (worker.next (.command command)).outlook = worker.outlook.idle ∧
        command.isFatal worker.attachment.session? = true := by
  have executed : worker.next (.command command) =
      worker.resume (worker.post.handle command).lost (worker.post.handle command).post := rfl
  rw [executed]
  cases held : worker.attachment with
  | detached resources =>
      have free : worker.post.session = none := by simp [post, held, Attachment.session?]
      left
      by_cases served : command = .shutdown
      · rw [served, Post.handle_shutdown, outlook_free worker free]
        rfl
      · have harmless : ¬command.isFatal worker.post.session = true := fun fatal => by
          obtain ⟨session, some⟩ := Command.held_of_isFatal fatal
          rw [free] at some
          cases some
        rw [Post.handle_eq _ served, if_neg harmless, outlook_free worker (by simp [free])]
        rfl
  | attached session =>
      have here : worker.post.session = some session := by
        simp [post, held, Attachment.session?]
      by_cases served : command = .shutdown
      · rw [served, Post.handle_shutdown, ← show Post.mk (some session) worker.registry =
          worker.post by rw [← here]; rfl]
        exact .inl (outlook_kept held (Reaches.refl (F := everything) session))
      · have reached : everything.Reaches session (command.leave session) :=
          (command.within_act session).1.mono fun _ _ => trivial
        rw [Post.handle_eq _ served, here]
        split
        · rename_i fatal
          right
          exact ⟨outlook_lost held (reached.trans
            (Session.within_surpriseRemove trivial (command.leave session)).1), fatal⟩
        · left
          exact outlook_kept held reached

/-! ## Events -/

theorem occupied_post {worker : Worker} {session : Session Link} {post : Post Link}
    (occupied : worker.post.occupy session = .ok post) :
    ∃ registry, worker.registry.register session.key () = .ok registry ∧
      post = ⟨some session, registry⟩ := by
  unfold Post.occupy at occupied
  split at occupied
  · rename_i registry registered
    cases occupied
    exact ⟨registry, registered, rfl⟩
  · cases occupied

/-- A session that is started uses the device of the link, under its address, and is registered. -/
theorem startSession_outlook (worker : Worker) (link : Link) (disk : Option Disk) :
    (worker.startSession link disk).outlook =
        { worker.outlook with roster := link.bus.roster, inUse := none } ∨
      ∃ (key : AdapterKey) (registry : Registry Unit), key.bus = link.device.bus ∧
        key.address = link.device.address ∧
        worker.registry.register key () = .ok registry ∧
        (worker.startSession link disk).outlook =
          { worker.outlook with
            roster := link.bus.roster, inUse := some (link.handle.device, key), registry } := by
  unfold startSession
  split
  · left
    have closed : (Link.close.run.run link).2.bus.roster = link.bus.roster :=
      congrArg Prod.fst (Link.keeps_close link)
    simp [outlook, bus, Attachment.bus, Attachment.session?, closed]
  · rename_i store opened
    have started : everything.Reaches (worker.newSession link store)
        (Session.start.exec (worker.newSession link store)).2 :=
      (Session.within_start trivial _).1
    have place := Link.place_of_reaches started
    dsimp only
    split
    · exact .inl (outlook_release worker _)
    · rename_i post occupied
      obtain ⟨registry, registered, rfl⟩ := occupied_post occupied
      cases ran : Session.start.exec (worker.newSession link store) with
      | mk result session =>
          rw [ran] at place started
          have roster : session.host.bus.roster = link.bus.roster := congrArg Prod.fst place
          have device : session.host.handle.device = link.handle.device := congrArg Prod.snd place
          cases result with
          | ok _ =>
              refine .inr ⟨(worker.newSession link store).key, registry, rfl, rfl, registered, ?_⟩
              have kept : (worker.resume none ⟨some session, registry⟩).outlook =
                  { worker.outlook with
                    roster := session.host.bus.roster
                    inUse := some (session.host.handle.device, session.key)
                    registry } := rfl
              rw [roster, device, started.key] at kept
              exact kept
          | error e =>
              left
              have lost : (worker.resume (some session)
                    (Post.release ⟨some (worker.newSession link store), registry⟩)).outlook =
                  { worker.outlook with
                    roster := session.host.bus.roster
                    inUse := none
                    registry := registry.drop (worker.newSession link store).key } :=
                outlook_release _ session
              rw [roster, Registry.drop_register registered] at lost
              exact lost

/-- Attaching takes a device that is there and of the right kind, or nothing. -/
theorem attach_outlook (worker : Worker) :
    worker.attach.outlook = worker.outlook ∨
      ∃ n key registry, worker.outlook.inUse = none ∧ worker.outlook.Offers n ∧
        worker.outlook.Locates n key ∧ worker.registry.register key () = .ok registry ∧
        worker.attach.outlook = { worker.outlook with inUse := some (n, key), registry } := by
  cases held : worker.attachment with
  | attached session => exact .inl (by simp only [attach, held])
  | detached resources =>
      obtain ⟨bus, disk⟩ := resources
      have free : worker.outlook.inUse = none := by simp [outlook, held, Attachment.session?]
      have roster : worker.outlook.roster = bus.roster := by
        simp [outlook, Worker.bus, held, Attachment.bus]
      have kept := Bus.keeps_openLink worker.settings.vendorId worker.settings.productId bus
      have found := Bus.finds_openLink worker.settings.vendorId worker.settings.productId bus rfl
      cases opened : (Bus.openLink worker.settings.vendorId worker.settings.productId).run.run
          bus with
      | mk result after =>
          rw [opened] at kept
          cases result with
          | error e =>
              have attached : worker.attach = worker.setBus after := by
                simp only [attach, held, opened]
              left
              rw [attached, outlook_setBus, kept, ← roster]
          | ok handle =>
              have attached : worker.attach = worker.startSession ⟨after, handle⟩ disk := by
                simp only [attach, held, opened]
              have offers := (found handle after opened).2
              rw [attached]
              obtain outcome | ⟨key, registry, located, address, registered, outcome⟩ :=
                worker.startSession_outlook ⟨after, handle⟩ disk
              · left
                rw [outcome, kept, ← roster, ← free]
              · right
                refine ⟨handle.device, key, registry, free, ?_, ?_, registered, ?_⟩
                · rwa [Outlook.Offers, roster]
                · rw [Outlook.Locates, roster, ← kept, Bus.roster_device]
                  exact ⟨located, address⟩
                · rw [outcome, kept, ← roster]

theorem run_mayFail (bus : Bus) (call : BusCallName) :
    (Bus.mayFail call).run.run bus = match bus.errors.take call with
      | (some e, errors) => (.error e, { bus with errors })
      | (none, errors) => (.ok (), { bus with errors }) := by
  have got : (get : BusAct Bus).run.run bus = pure (.ok bus, bus) := rfl
  cases queued : bus.errors.take call with
  | mk error errors =>
      rw [Bus.mayFail, ExceptT.run_bind, StateT.run_bind, got, pure_bind]
      dsimp only
      rw [queued]
      cases error <;> rfl

/-- The bus delivers its oldest event, if there is one and nothing goes wrong. -/
theorem run_handleEvents (bus : Bus) :
    (∃ e after, Bus.handleEvents.run.run bus = (.error e, after) ∧ after.roster = bus.roster) ∨
      ∃ after, Bus.handleEvents.run.run bus = (.ok bus.events.head?, after) ∧
        after.roster = { bus.roster with events := bus.events.tail } := by
  have delivered : Bus.handleEvents.run.run bus =
      match (Bus.mayFail .handleEvents).run.run bus with
      | (.ok _, after) => (.ok after.events.head?, { after with events := after.events.tail })
      | (.error e, after) => (.error e, after) := by
    simp only [Bus.handleEvents, ExceptT.run_bind, StateT.run_bind]
    cases (Bus.mayFail .handleEvents).run.run bus with
    | mk result after => cases result <;> rfl
  rw [delivered, run_mayFail]
  cases bus.errors.take .handleEvents with
  | mk error errors =>
      cases error with
      | some e => exact .inl ⟨e, _, rfl, rfl⟩
      | none => exact .inr ⟨_, rfl, rfl⟩

theorem concerns_iff (worker : Worker) (n : Nat) :
    worker.matchesDevice (worker.bus.device n) = true ↔ worker.outlook.Concerns n := by
  have listed : worker.outlook.roster.device n = (worker.bus.device n).listing :=
    worker.bus.roster_device n
  rw [Outlook.Concerns, listed]
  simp [matchesDevice, outlook, BusDevice.listing]

section Told

variable {worker before : Worker} (shifted : worker.outlook = before.outlook.shift)

include shifted

theorem concerns_of_shifted (n : Nat) :
    worker.matchesDevice (worker.bus.device n) = true ↔ before.outlook.Concerns n := by
  rw [concerns_iff, shifted]
  exact Iff.rfl

theorem inUse_of_shifted : worker.outlook.inUse = before.outlook.inUse := by
  rw [shifted]
  rfl

theorem arrival_outlook (n : Nat) :
    before.outlook.Handles (.arrived n) (worker.onPlugEvent (.arrived n)).outlook := by
  simp only [onPlugEvent]
  split
  · rename_i alike
    have concerned := (concerns_of_shifted shifted n).mp alike
    obtain same | ⟨m, key, registry, free, offers, locates, registered, taken⟩ :=
      worker.attach_outlook
    · rw [same, shifted]
      cases used : before.outlook.inUse with
      | none => exact .miss n concerned used
      | some _ => exact .ignore _ (fun _ _ _ => by simp [used]) nofun
    · rw [taken, shifted]
      rw [show worker.registry = before.outlook.registry from
        congrArg Outlook.registry shifted] at registered
      rw [inUse_of_shifted shifted] at free
      rw [shifted] at offers locates
      exact .take n m key registry free ⟨offers.1, offers.2, offers.3, offers.4⟩ locates registered
  · rename_i other
    rw [shifted]
    refine .ignore _ ?_ nofun
    rintro _ ⟨⟩ concerned
    exact absurd ((concerns_of_shifted shifted n).mpr concerned) other

theorem departure_outlook (n : Nat) :
    before.outlook.Handles (.left n) (worker.onPlugEvent (.left n)).outlook := by
  -- Which device left is told from its address, not from its number.
  have inUse := inUse_of_shifted shifted
  simp only [onPlugEvent]
  split
  · rename_i session held
    have used := (outlook_of_held held).2
    split
    · rw [detach_outlook, shifted]
      exact .leave n
    · rename_i other
      rw [shifted]
      refine .ignore _ nofun ?_
      rintro _ m key ⟨⟩ inUse' concerned located
      obtain ⟨-, rfl⟩ : session.host.handle.device = m ∧ session.key = key := by
        rw [← inUse, used] at inUse'
        simpa using inUse'
      have listed : before.outlook.roster.device n = (worker.bus.device n).listing := by
        rw [← worker.bus.roster_device n, show worker.bus.roster = _ from
          congrArg Outlook.roster shifted]
        rfl
      rw [Outlook.Locates, listed] at located
      have alike := (concerns_of_shifted shifted n).mpr concerned
      exact other (by simp [alike, located, BusDevice.listing])
  · rename_i resources held
    rw [shifted]
    refine .ignore _ nofun ?_
    rintro _ m key ⟨⟩ inUse'
    rw [← inUse] at inUse'
    simp [outlook, held, Attachment.session?] at inUse'

end Told

theorem outlook_told {worker : Worker} {after : Bus}
    (delivered : after.roster = { worker.bus.roster with events := worker.bus.events.tail }) :
    (worker.setBus after).outlook = worker.outlook.shift := by
  rw [outlook_setBus, delivered]
  rfl

/-- An event is handled, unless there is none or the bus fails to deliver it. -/
theorem event_outlook (worker : Worker) (watching : worker.watching = true) :
    (worker.nextEvent? = none ∧ (worker.next .event).outlook = worker.outlook) ∨
      ∃ event, worker.nextEvent? = some event ∧
        worker.outlook.roster.events.head? = some event ∧
        worker.outlook.Handles event (worker.next .event).outlook := by
  obtain ⟨e, after, ran, roster⟩ | ⟨after, ran, roster⟩ := run_handleEvents worker.bus
  · left
    refine ⟨by simp only [nextEvent?, ran], ?_⟩
    simp only [next, handleEvents, ran, outlook_setBus, roster]
    rfl
  · have shifted := outlook_told roster
    cases waits : worker.bus.events.head? with
    | none =>
        left
        refine ⟨by simp only [nextEvent?, ran, waits], ?_⟩
        have handledAll : worker.bus.events = [] := List.head?_eq_none_iff.mp waits
        simp only [next, handleEvents, ran, waits]
        rw [outlook_setBus, roster, handledAll]
        simp [outlook, Bus.roster, handledAll]
    | some event =>
        right
        refine ⟨event, by simp only [nextEvent?, ran, waits], waits, ?_⟩
        have still : (worker.setBus after).watching = true := watching
        simp only [next, handleEvents, ran, waits, still, if_true]
        cases event with
        | arrived n => exact arrival_outlook shifted n
        | left n => exact departure_outlook shifted n

theorem next_arrived {worker : Worker} {n : Nat} (watching : worker.watching = true)
    (next : worker.nextEvent? = some (.arrived n)) (concerned : worker.outlook.Concerns n) :
    let told := worker.setBus (Bus.handleEvents.run.run worker.bus).2
    told.outlook = worker.outlook.shift ∧ worker.next .event = told.attach := by
  obtain ⟨e, after, ran, -⟩ | ⟨after, ran, roster⟩ := run_handleEvents worker.bus
  · simp only [nextEvent?, ran] at next
    cases next
  · simp only [nextEvent?, ran] at next
    have shifted := outlook_told roster
    have still : (worker.setBus after).watching = true := watching
    have alike : (worker.setBus after).matchesDevice ((worker.setBus after).bus.device n) = true :=
      (concerns_iff _ n).mpr (by rw [shifted]; exact concerned)
    rw [ran]
    refine ⟨shifted, ?_⟩
    simp only [Worker.next, handleEvents, ran, next, still, if_true, onPlugEvent, alike]

end Worker

end ModemLink
