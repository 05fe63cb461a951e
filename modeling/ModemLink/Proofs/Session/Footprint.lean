import Mathlib.Logic.Relation
import ModemLink.Proofs.Session.View
import ModemLink.Session.Operations

/-!
# Footprints

A footprint lists the kinds of change that an action may make to a session, and the errors that it
may end with. An action stays `Within` a footprint if it makes no other change and ends with no
other error; it then spares every view that is blind to the changes.
-/

namespace ModemLink

open Act

variable {η α β γ : Type} [Host η]

theorem Lifecycle.ne_absent_of_next {state state' : Lifecycle} {event : LifecycleEvent}
    (moved : state.next event = .ok state') : state' ≠ .absent := by
  unfold next at moved
  split at moved <;> cases moved <;> nofun

/-! ## Changes -/

/-- One call to the host, whatever it answers. -/
inductive Host.Called (host : η) : η → Prop
  | getDescriptor (kind : DescriptorKind) (index : UInt8) (language : UInt16) (length : Nat) :
      Called host (Host.getDescriptor kind index language length host).2
  | selectConfiguration (value : UInt8) (interfaces : List Selection) :
      Called host (Host.selectConfiguration value interfaces host).2
  | releaseInterfaces : Called host (Host.releaseInterfaces host)
  | bulkIn (endpoint : UInt8) (length timeout : Nat) :
      Called host (Host.bulkIn endpoint length timeout host).2
  | bulkOut (endpoint : UInt8) (data : Bytes) (timeout : Nat) :
      Called host (Host.bulkOut endpoint data timeout host).2
  | interruptIn (endpoint : UInt8) (length timeout : Nat) :
      Called host (Host.interruptIn endpoint length timeout host).2
  | resetPipe (endpoint : UInt8) : Called host (Host.resetPipe endpoint host).2
  | controlOut (request : ControlRequest) : Called host (Host.controlOut request host).2
  | setIdle (idle : Bool) : Called host (Host.setIdle idle host).2
  | startLoop (name : LoopName) : Called host (Host.startLoop name host).2
  | stopLoop (name : LoopName) (tag : StopTag) (wait : Bool) :
      Called host (Host.stopLoop name tag wait host).2

/-- The part of a session that changes. -/
inductive Change where
  | host
  | event (event : Event)
  | store (key : StoreKey)
  | loops
  | lifecycle
  /-- What an enumeration finds out. -/
  | enumeration
  | pool
  | queues
  /-- The recorded level of the device. -/
  | level
  /-- The permission to suspend, and the idle timer. -/
  | tenancy
  /-- How the data path was stopped. -/
  | suspension
  | waitWake
  /-- The recorded level of the system, and what has been done about it. -/
  | system
  /-- Pipe status, statistics and transfers under way. -/
  | details

namespace Change

inductive Makes : Change → Session η → Session η → Prop
  | host (s : Session η) {host : η} (called : Host.Called s.host host) :
      Makes .host s { s with host }
  | event (s : Session η) (event : Event) :
      Makes (.event event) s { s with trace := s.trace.push event }
  | store (s : Session η) (key : StoreKey) (value : StoreValue) :
      Makes (.store key) s { s with store := (s.store.set key value).2 }
  | loops (s : Session η) (loops : ServiceLoops) : Makes .loops s { s with loops }
  | lifecycle (s : Session η) {event : LifecycleEvent} {lifecycle : Lifecycle}
      (moved : s.device.lifecycle.next event = .ok lifecycle) :
      Makes .lifecycle s { s with device := { s.device with lifecycle } }
  | enumeration (s : Session η) (identity : Identity) (pipes : PipeStatus)
      (configuration : Option UsbConfiguration) :
      Makes .enumeration s { s with device := { s.device with identity, pipes, configuration } }
  | pool (s : Session η) (pool : RequestPool) :
      Makes .pool s { s with device := { s.device with pool } }
  | queues (s : Session η) (queues : Queues) :
      Makes .queues s { s with device := { s.device with queues } }
  | level (s : Session η) (device : DevicePower) :
      Makes .level s { s with device.power := { s.device.power with device } }
  | tenancy (s : Session η) (suspendAllowed : Bool) (idleDeadline : Option Nat) :
      Makes .tenancy s
        { s with device.power := { s.device.power with suspendAllowed, idleDeadline } }
  | suspension (s : Session η) (powerSuspended idleSuspended lowPowerMode stopped : Bool) :
      Makes .suspension s { s with device.power := { s.device.power with
        powerSuspended, idleSuspended, lowPowerMode, stopped } }
  | waitWake (s : Session η) (waitWakeArmed : Bool) :
      Makes .waitWake s { s with device.power := { s.device.power with waitWakeArmed } }
  | system (s : Session η) (system : SystemPower) (prepareToPowerDown deregistrationSent : Bool) :
      Makes .system s { s with device.power := { s.device.power with
        system, prepareToPowerDown, deregistrationSent } }
  | details (s : Session η) (pipes : PipeStatus) (stats : TransferStats) (ioBusy : UInt32)
      (inflightResponses : UInt32) (txPaused : Bool) :
      Makes .details s { s with device := { s.device with
        pipes, stats, ioBusy, inflightResponses, txPaused } }

end Change

structure Footprint where
  touches : Change → Prop
  fails : DriverError → Prop

namespace Footprint

/-- The same changes, with any error at the end. -/
def lenient (F : Footprint) : Footprint := { F with fails := fun _ => True }

/-- One kind of change more. -/
def allowing (F : Footprint) (change : Change) : Footprint :=
  { F with touches := fun change' => change' = change ∨ F.touches change' }

/-- Made of changes that the footprint allows. -/
def Reaches (F : Footprint) : Session η → Session η → Prop :=
  Relation.ReflTransGen fun s t => ∃ change, F.touches change ∧ change.Makes s t

variable {F : Footprint} {s t u : Session η}

theorem Reaches.refl (s : Session η) : F.Reaches s s := Relation.ReflTransGen.refl

theorem Reaches.single {change : Change} (makes : change.Makes s t) (allowed : F.touches change) :
    F.Reaches s t :=
  Relation.ReflTransGen.single ⟨change, allowed, makes⟩

theorem Reaches.trans (first : F.Reaches s t) (second : F.Reaches t u) : F.Reaches s u :=
  Relation.ReflTransGen.trans first second

theorem Reaches.mono {G : Footprint} (wider : ∀ change, F.touches change → G.touches change)
    (reaches : F.Reaches s t) : G.Reaches s t := by
  induction reaches with
  | refl => exact .refl s
  | tail _ step widened =>
      obtain ⟨change, allowed, makes⟩ := step
      exact widened.trans (.single makes (wider change allowed))

/-- None of the changes that the footprint allows shows in the view. -/
def Misses (F : Footprint) (view : Session η → γ) : Prop :=
  ∀ ⦃change : Change⦄ ⦃s t : Session η⦄, F.touches change → change.Makes s t → view t = view s

theorem Misses.reaches {view : Session η → γ} (misses : F.Misses view) (reaches : F.Reaches s t) :
    view t = view s := by
  induction reaches with
  | refl => rfl
  | tail _ step same =>
      obtain ⟨change, allowed, makes⟩ := step
      exact (misses allowed makes).trans same

/-- The trace grows by events that the footprint allows. -/
theorem Reaches.appends (reaches : F.Reaches s t) :
    ∃ events, t.trace.toList = s.trace.toList ++ events ∧
      ∀ event ∈ events, F.touches (.event event) := by
  induction reaches with
  | refl => exact ⟨[], by simp⟩
  | tail _ step ih =>
      obtain ⟨events, grown, allowed⟩ := ih
      obtain ⟨change, touches, makes⟩ := step
      cases makes with
      | event _ event =>
          refine ⟨events ++ [event], by simp [grown], ?_⟩
          simp only [List.mem_append, List.mem_singleton]
          rintro other (earlier | rfl)
          · exact allowed other earlier
          · exact touches
      | _ => exact ⟨events, grown, allowed⟩

theorem Reaches.key (reaches : F.Reaches s t) : t.key = s.key := by
  induction reaches with
  | refl => rfl
  | tail _ step same =>
      obtain ⟨change, -, makes⟩ := step
      cases makes <;> exact same

theorem Reaches.mux (reaches : F.Reaches s t) : t.device.mux = s.device.mux := by
  induction reaches with
  | refl => rfl
  | tail _ step same =>
      obtain ⟨change, -, makes⟩ := step
      cases makes <;> exact same

/-- No lifecycle event leads back to the absent state. -/
theorem Reaches.arrived (reaches : F.Reaches s t) (arrived : s.device.lifecycle ≠ .absent) :
    t.device.lifecycle ≠ .absent := by
  induction reaches with
  | refl => exact arrived
  | tail _ step ih =>
      obtain ⟨change, -, makes⟩ := step
      cases makes with
      | lifecycle _ moved => exact Lifecycle.ne_absent_of_next moved
      | _ => exact ih

/-- The host changes by calls to it alone. -/
theorem Reaches.calls (reaches : F.Reaches s t) :
    Relation.ReflTransGen Host.Called s.host t.host := by
  induction reaches with
  | refl => exact .refl
  | tail _ step calls =>
      obtain ⟨change, -, makes⟩ := step
      cases makes with
      | host _ called => exact calls.tail called
      | _ => exact calls

/-- Events that are not allowed are as many as before. -/
theorem misses_countP {test : Event → Bool}
    (forbidden : ∀ event, test event = true → ¬F.touches (.event event)) :
    F.Misses fun s : Session η => s.trace.toList.countP test := by
  intro change s t allowed makes
  cases makes with
  | event _ event =>
      have other : ¬test event = true := fun counted => forbidden event counted allowed
      simp [other]
  | _ => rfl

theorem Misses.allowing {view : Session η → γ} (misses : F.Misses view) {change : Change}
    (missed : ∀ s t : Session η, change.Makes s t → view t = view s) :
    (F.allowing change).Misses view := by
  rintro _ s t (rfl | allowed) makes
  · exact missed s t makes
  · exact misses allowed makes

/-! ## Wider footprints -/

/-- Whatever `base` allows is allowed. -/
class Allows (base F : Footprint) : Prop where
  touches (change : Change) (allowed : base.touches change) : F.touches change
  fails (e : DriverError) (allowed : base.fails e) : F.fails e

instance : Allows F F := ⟨fun _ => id, fun _ => id⟩

instance {base : Footprint} [allows : Allows base F] (change : Change) :
    Allows base (F.allowing change) :=
  ⟨fun change allowed => .inr (allows.touches change allowed), allows.fails⟩

instance {base : Footprint} [allows : Allows base F] : Allows base F.lenient :=
  ⟨allows.touches, fun _ _ => trivial⟩

theorem allowed (base : Footprint) [allows : Allows base F] {change : Change}
    (allowed : base.touches change) : F.touches change :=
  allows.touches change allowed

theorem excused (base : Footprint) [allows : Allows base F] {e : DriverError}
    (excused : base.fails e) : F.fails e :=
  allows.fails e excused

end Footprint

/-! ## Actions within a footprint -/

namespace Act

def Within (act : Act η α) (F : Footprint) : Prop :=
  ∀ session, F.Reaches session (act.exec session).2 ∧
    ∀ e, (act.exec session).1 = .error e → F.fails e

variable {F G : Footprint} {act : Act η α} {next : α → Act η β}

theorem within_pure (a : α) : (pure a : Act η α).Within F := fun session => ⟨.refl session, nofun⟩

theorem within_throw {e : DriverError} (fails : F.fails e) : (throw e : Act η α).Within F := by
  intro session
  refine ⟨.refl session, ?_⟩
  rintro _ ⟨⟩
  exact fails

theorem within_device : (device : Act η Device).Within F := fun session => ⟨.refl session, nofun⟩

theorem within_get : (get : Act η (Session η)).Within F := fun session => ⟨.refl session, nofun⟩

/-- The action stays within the footprint from this session. -/
def WithinAt (act : Act η α) (F : Footprint) (session : Session η) : Prop :=
  F.Reaches session (act.exec session).2 ∧ ∀ e, (act.exec session).1 = .error e → F.fails e

theorem Within.here (within : act.Within F) {session : Session η} : act.WithinAt F session :=
  within session

theorem WithinAt.reaches {session after : Session η} {result : Except DriverError α}
    (within : act.WithinAt F session) (ran : act.exec session = (result, after)) :
    F.Reaches session after := by
  have reached := within.1
  rwa [ran] at reached

theorem WithinAt.fails {session after : Session η} {e : DriverError}
    (within : act.WithinAt F session) (failed : act.exec session = (.error e, after)) : F.fails e :=
  within.2 e (congrArg Prod.fst failed)

theorem Within.reaches {session after : Session η} {result : Except DriverError α}
    (within : act.Within F) (ran : act.exec session = (result, after)) :
    F.Reaches session after :=
  within.here.reaches ran

theorem WithinAt.seq {session : Session η} (first : act.WithinAt F session)
    (rest : ∀ a after, act.exec session = (.ok a, after) → (next a).WithinAt F after) :
    (act >>= next).WithinAt F session := by
  unfold WithinAt at first ⊢
  rw [exec_bind]
  revert first
  cases ran : act.exec session with
  | mk result after =>
      cases result with
      | ok a =>
          rintro ⟨reaches, -⟩
          have later := rest a after ran
          exact ⟨reaches.trans later.1, later.2⟩
      | error e =>
          rintro ⟨reaches, fails⟩
          refine ⟨reaches, ?_⟩
          rintro _ ⟨⟩
          exact fails e rfl

theorem WithinAt.tryCatch {session : Session η} {handler : DriverError → Act η α}
    (tried : act.WithinAt F session) (handled : ∀ e, F.fails e → (handler e).Within F) :
    (tryCatch act handler).WithinAt F session := by
  unfold WithinAt at tried ⊢
  rw [exec_tryCatch]
  revert tried
  cases act.exec session with
  | mk result after =>
      cases result with
      | ok a => exact fun tried => ⟨tried.1, nofun⟩
      | error e =>
          rintro ⟨reaches, fails⟩
          have caught := handled e (fails e rfl) after
          exact ⟨reaches.trans caught.1, caught.2⟩

theorem withinAt_device {next : Device → Act η β} {session : Session η}
    (rest : (next session.device).WithinAt F session) :
    (device >>= next).WithinAt F session := by
  unfold WithinAt
  rw [exec_bind_ok (exec_device session)]
  exact rest

/-- What the first of two actions spares is known of the session that the second one finds. -/
theorem Within.seqAt {view : Session η → γ} {session : Session η} (within : act.Within F)
    (spares : act.Spares view)
    (rest : ∀ a after, view after = view session → (next a).WithinAt F after) :
    (act >>= next).WithinAt F session := by
  refine within.here.seq fun a after ran => rest a after ?_
  have same := spares session
  rwa [ran] at same

theorem Within.seq (within : act.Within F) (rest : ∀ a, (next a).Within F) :
    (act >>= next).Within F :=
  fun _ => within.here.seq fun a _ _ => rest a _

theorem Within.tryCatch {handler : DriverError → Act η α} (within : act.Within F)
    (handled : ∀ e, F.fails e → (handler e).Within F) : (tryCatch act handler).Within F :=
  fun _ => within.here.tryCatch handled

theorem Within.discard (within : act.Within F) : (discard act).Within F :=
  within.seq fun _ => within_pure ()

theorem Within.lenient (within : act.Within F) : act.Within F.lenient :=
  fun session => ⟨(within session).1, fun _ _ => trivial⟩

theorem Within.attempt (within : act.Within F.lenient) : (attempt act).Within F := by
  have attempted : (Act.attempt act).Within F.lenient :=
    within.discard.tryCatch fun _ _ => within_pure ()
  have unseen : act.Spares fun _ => () := fun _ => rfl
  intro session
  obtain ⟨_, _, succeeds, -⟩ := unseen.attempt session
  refine ⟨(attempted session).1, ?_⟩
  rw [succeeds]
  exact nofun

/-- A branch that goes on as the other one does once it is through. -/
theorem within_either {p : Prop} [Decidable p] {first rest : Act η α} (goesOn : rest.Within F)
    (through : rest.Within F → first.Within F) : (if p then first else rest).Within F := by
  split
  · exact through goesOn
  · exact goesOn

theorem within_among {p q : Prop} [Decidable p] [Decidable q] {first second rest : Act η α}
    (goesOn : rest.Within F) (first' : rest.Within F → first.Within F)
    (second' : rest.Within F → second.Within F) :
    (if p then first else if q then second else rest).Within F := by
  split
  · exact first' goesOn
  · exact within_either goesOn second'

theorem Within.mono (within : act.Within F)
    (touches : ∀ change, F.touches change → G.touches change)
    (fails : ∀ e, F.fails e → G.fails e) : act.Within G :=
  fun session => ⟨(within session).1.mono touches, fun e failed =>
    fails e ((within session).2 e failed)⟩

theorem Within.allowing (within : act.Within F) (change : Change) :
    act.Within (F.allowing change) :=
  within.mono (fun _ => .inr) fun _ => id

theorem Within.spares {view : Session η → γ} (within : act.Within F) (misses : F.Misses view) :
    act.Spares view :=
  fun session => misses.reaches (within session).1

/-! ## Primitive actions -/

theorem within_onHost {f : η → α × η} (called : ∀ host, Host.Called host (f host).2)
    (allowed : F.touches .host) : (onHost f).Within F :=
  fun session => ⟨.single (.host session (called session.host)) allowed, nofun⟩

theorem within_emit {event : Event} (allowed : F.touches (.event event)) :
    (emit event : Act η Unit).Within F :=
  fun session => ⟨.single (.event session event) allowed, nofun⟩

theorem within_modify {f : Session η → Session η}
    (reaches : ∀ session, F.Reaches session (f session)) : (modify f : Act η Unit).Within F :=
  fun session => ⟨reaches session, nofun⟩

theorem within_onQueues (f : Queues → Queues) (allowed : F.touches .queues) :
    (onQueues f : Act η Unit).Within F :=
  within_modify fun session => .single (.queues session _) allowed

theorem within_onStats (f : TransferStats → TransferStats) (allowed : F.touches .details) :
    (onStats f : Act η Unit).Within F :=
  within_modify fun session => .single (.details session _ _ _ _ _) allowed

theorem within_recordPipe (pipe : TrackedPipe) (result : Except UsbError α)
    (allowed : F.touches .details) : (recordPipe pipe result : Act η Unit).Within F :=
  within_modify fun session => .single (.details session _ _ _ _ _) allowed

theorem within_apply {event : LifecycleEvent} (allowed : F.touches .lifecycle)
    (fails : ∀ state e, Lifecycle.next state event = .error e → F.fails e) :
    (apply event : Act η Unit).Within F := by
  refine fun session => withinAt_device ?_
  split
  · rename_i moved
    exact ⟨.single (.lifecycle session moved) allowed, nofun⟩
  · rename_i e refused
    exact within_throw (fails _ e refused) session

theorem within_storeSet {key : StoreKey} {value : StoreValue}
    (noted : F.touches (.event (.storeSet key value))) (allowed : F.touches (.store key)) :
    (storeSet key value : Act η Unit).Within F.lenient := by
  refine (within_emit (F := F.lenient) noted).seq fun _ => ?_
  refine Within.seq (fun session => ⟨.single (.store session key value) allowed, nofun⟩)
    fun result => ?_
  cases result with
  | ok _ => exact within_pure ()
  | error e => exact within_throw trivial

theorem within_storeIncrement {key : StoreKey} (read : F.touches (.event (.storeGet key)))
    (noted : ∀ value, F.touches (.event (.storeSet key value))) (allowed : F.touches (.store key)) :
    (storeIncrement key : Act η Unit).Within F.lenient := by
  refine (within_emit (F := F.lenient) read).seq fun _ => within_get.seq fun session => ?_
  split
  · exact within_throw trivial
  · exact within_storeSet (noted _) allowed

end Act

end ModemLink
