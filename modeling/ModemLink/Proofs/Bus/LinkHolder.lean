import ModemLink.Bus.Link

/-!
# A link is a holder over the bus

A link selects and releases interfaces as a holder that starts with the claims of its handle. Any
other holder over the bus that amounts to the link does the same (`matches_select`,
`matches_release`), since the calls and the descriptors that it keeps decide nothing.
-/

namespace ModemLink.Link

variable {α β : Type}

/-- Whatever the holder, the link it amounts to does the same and ends as the link of the holder
that is reached. -/
def Matches (act : LinkAct α) (twin : HolderAct Link α) : Prop :=
  ∀ holder : Holder Link,
    act.run.run holder.link = ((twin.run.run holder).1, (twin.run.run holder).2.link)

/-- What the action does depends on the link alone that the holder amounts to. -/
def Steady (act : HolderAct Link α) : Prop :=
  ∀ holder other : Holder Link, holder.link = other.link →
    (act.run.run holder).1 = (act.run.run other).1 ∧
      (act.run.run holder).2.link = (act.run.run other).2.link

variable {act : HolderAct Link α}

theorem Steady.matches_held (steady : Steady act) : Matches (held act) act :=
  fun holder => Prod.ext_iff.mpr (steady holder.link.holder holder rfl)

theorem steady_pure (a : α) : Steady (pure a) := fun _ _ same => ⟨rfl, same⟩

theorem steady_throw (e : BusError) : Steady (throw e : HolderAct Link α) :=
  fun _ _ same => ⟨rfl, same⟩

theorem Steady.seq {next : α → HolderAct Link β} (first : Steady act)
    (rest : ∀ a, Steady (next a)) : Steady (act >>= next) := by
  intro holder other same
  have started := first holder other same
  revert started
  simp only [ExceptT.run_bind, StateT.run_bind]
  cases act.run.run holder with
  | mk result after =>
      cases act.run.run other with
      | mk result' after' =>
          rintro ⟨rfl, same⟩
          cases result with
          | ok a => exact rest a after after' same
          | error e => exact ⟨rfl, same⟩

theorem Steady.tryCatch {handler : BusError → HolderAct Link α} (tried : Steady act)
    (handled : ∀ e, Steady (handler e)) : Steady (tryCatch act handler) := by
  intro holder other same
  have started := tried holder other same
  revert started
  change _ → ((ExceptT.tryCatch act handler).run.run holder).1 =
      ((ExceptT.tryCatch act handler).run.run other).1 ∧
    ((ExceptT.tryCatch act handler).run.run holder).2.link =
      ((ExceptT.tryCatch act handler).run.run other).2.link
  simp only [ExceptT.tryCatch, ExceptT.run_mk, StateT.run_bind]
  cases run : act.run.run holder with
  | mk result after =>
      cases run' : act.run.run other with
      | mk result' after' =>
          have reached : StateT.run act holder = (result, after) := run
          have reached' : StateT.run act other = (result', after') := run'
          rw [reached, reached']
          rintro ⟨rfl, same⟩
          cases result with
          | ok a => exact ⟨rfl, same⟩
          | error e => exact handled e after after' same

theorem Steady.map (steady : Steady act) (f : α → β) : Steady (f <$> act) := by
  rw [← bind_pure_comp]
  exact steady.seq fun a => steady_pure (f a)

theorem Steady.ite {p : Prop} [Decidable p] {rest : HolderAct Link α} (pos : Steady act)
    (neg : Steady rest) : Steady (if p then act else rest) := by
  split
  · exact pos
  · exact neg

theorem Steady.attempt (steady : Steady act) : Steady (Holder.attempt act) :=
  (steady.map fun _ => ()).tryCatch fun _ => steady_pure ()

theorem steady_forM {f : α → HolderAct Link PUnit} (xs : List α) (steady : ∀ x, Steady (f x)) :
    Steady (xs.forM f) := by
  induction xs with
  | nil => exact steady_pure _
  | cons x xs ih => exact (steady x).seq fun _ => ih

theorem steady_mapM {f : α → HolderAct Link β} (xs : List α) (steady : ∀ x, Steady (f x)) :
    Steady (xs.mapM f) := by
  induction xs with
  | nil => exact steady_pure _
  | cons x xs ih =>
      rw [List.mapM_cons]
      exact (steady x).seq fun _ => ih.seq fun _ => steady_pure _

/-- An action that looks at the holder looks at its claims alone. -/
theorem Steady.of_get {f : Holder Link → HolderAct Link β} (rest : ∀ holder, Steady (f holder))
    (looks : ∀ holder other : Holder Link,
      holder.account.claimed = other.account.claimed → f holder = f other) :
    Steady (get >>= f) := by
  intro holder other same
  have claimed : holder.account.claimed = other.account.claimed :=
    congrArg (fun link => link.handle.claimed) same
  have there : (get >>= f : HolderAct Link β).run.run other = (f holder).run.run other :=
    congrArg (fun act => act.run.run other) (looks holder other claimed).symm
  rw [there]
  exact rest holder holder other same

/-! ## Calls -/

def holding (link : Link) (claimed : List UInt8) : Link :=
  { link with handle := { link.handle with claimed } }

/-- The claims of the handle have no part in the action. -/
def Apart (f : LinkAct α) : Prop :=
  ∀ link claimed, f.run.run (link.holding claimed) =
    ((f.run.run link).1, (f.run.run link).2.holding claimed)

variable {f : LinkAct α} {holder other : Holder Link}

theorem apart_onBus (f : Nat → BusAct α) : Apart (onBus f) := fun _ _ => rfl

theorem Apart.seq {next : α → LinkAct β} (first : Apart f) (rest : ∀ a, Apart (next a)) :
    Apart (f >>= next) := by
  intro link claimed
  have started := first link claimed
  simp only [ExceptT.run_bind, StateT.run_bind] at started ⊢
  rw [started]
  cases f.run.run link with
  | mk result after =>
      cases result with
      | ok a => exact rest a after claimed
      | error e => rfl

theorem Apart.map (apart : Apart f) (g : α → β) : Apart (g <$> f) := by
  rw [← bind_pure_comp]
  exact apart.seq fun _ _ _ => rfl

theorem apart_perform (call : InterfaceCall) : Apart (perform call) := by
  cases call with
  | detach i => exact apart_onBus fun n => Bus.detach n i
  | attach i => exact apart_onBus fun n => Bus.attach n i
  | claim i => exact (apart_onBus fun n => Bus.claim n i).seq fun _ _ _ => rfl
  | unclaim i => exact (apart_onBus fun n => Bus.unclaim n i).seq fun _ _ _ => rfl
  | choose i alternate => exact apart_onBus fun n => Bus.altSetting n i alternate

theorem Apart.agree (apart : Apart f) (same : holder.link = other.link) :
    (f.run.run holder.stack).1 = (f.run.run other.stack).1 ∧
      (f.run.run holder.stack).2.holding holder.account.claimed =
        (f.run.run other.stack).2.holding other.account.claimed :=
  Prod.mk.inj ((apart _ _).symm.trans ((congrArg f.run.run same).trans (apart _ _)))

theorem Apart.steady (apart : Apart f) : Steady (Holder.onStack f.run.run) :=
  fun _ _ same => apart.agree same

theorem steady_perform (call : InterfaceCall) : Steady (Holder.perform call) :=
  fun _ _ same => (apart_perform call).agree same

theorem steady_onAccount (f : Account → Account) (g : List UInt8 → List UInt8)
    (claims : ∀ account, (f account).claimed = g account.claimed) :
    Steady (Holder.onAccount f) := by
  intro holder other same
  refine ⟨rfl, ?_⟩
  change holder.stack.holding (f holder.account).claimed =
    other.stack.holding (f other.account).claimed
  rw [claims, claims]
  exact congrArg (fun link => link.holding (g link.handle.claimed)) same

/-! ## Selecting and releasing -/

theorem steady_freeInterface (i : UInt8) : Steady (Holder.freeInterface i) := by
  have asked : Steady (Holder.onStack (UsbStack.kernelDriverActive i)) :=
    (apart_onBus fun n => Bus.kernelDriverActive n i).steady
  refine (asked.tryCatch fun _ => steady_pure false).seq fun active => ?_
  exact (steady_perform (.detach i)).attempt.ite (steady_pure ())

theorem steady_selectInterface (s : Selection) : Steady (Holder.selectInterface s) := by
  have chosen : Steady
      (if s.alternate != 0 then Holder.perform (.choose s.interface s.alternate) else pure ()) :=
    (steady_perform _).ite (steady_pure ())
  have held : Steady (Holder.onAccount fun account => account.hold s.interface) :=
    steady_onAccount _ (· ++ [s.interface]) fun _ => rfl
  refine (steady_freeInterface s.interface).seq fun _ => Steady.of_get (fun holder => ?_) ?_
  · exact ((steady_perform _).seq fun _ => held.seq fun _ => chosen).ite chosen
  · intro holder other same
    simp only [same]

/-- The descriptors that were read are no part of the link. -/
theorem steady_readConfig (index : UInt8) : Steady (Holder.readConfig index) := by
  have read : Steady (Holder.onStack (UsbStack.configDescriptor index)) :=
    (apart_onBus fun n => Bus.configDescriptor n index).steady
  exact read.seq fun config => Steady.seq (fun _ _ same => ⟨rfl, same⟩) fun _ => steady_pure config

theorem steady_pipesIn (value : UInt8) (s : Selection) (indices : List UInt8) :
    Steady (Holder.pipesIn value s indices) := by
  induction indices with
  | nil => exact steady_throw _
  | cons index rest ih =>
      exact (steady_readConfig index).seq fun config => ih.ite (steady_pure _)

theorem steady_pipesFor (value : UInt8) (s : Selection) : Steady (Holder.pipesFor value s) := by
  have counted : Steady (Holder.onStack (UsbStack.configurations)) :=
    ((apart_onBus Bus.deviceDescriptor).map BusDevice.configurations).steady
  exact counted.seq fun count => steady_pipesIn value s _

theorem matches_select (value : UInt8) (selections : List Selection) :
    Matches (select value selections) (Holder.select value selections) := by
  have rest : Steady (do
      selections.forM Holder.selectInterface
      return (← selections.mapM (Holder.pipesFor value)).flatten) :=
    (steady_forM selections steady_selectInterface).seq fun _ =>
      (steady_mapM selections (steady_pipesFor value)).seq fun _ => steady_pure _
  have asked : Steady (Holder.onStack (UsbStack.getConfiguration)) :=
    (apart_onBus Bus.getConfiguration).steady
  have set : Steady (Holder.onStack (UsbStack.setConfiguration value)) :=
    (apart_onBus fun n => Bus.setConfiguration n value).steady
  refine Steady.matches_held ?_
  refine ((asked.map some).tryCatch fun _ => steady_pure none).seq fun active => ?_
  exact (set.seq fun _ => rest).ite rest

theorem matches_release : Matches release Holder.release := by
  have cleared : Steady (Holder.onAccount fun account => { account with claimed := [] }) :=
    steady_onAccount _ (fun _ => []) fun _ => rfl
  refine Steady.matches_held (Steady.of_get (fun holder => ?_) ?_)
  · refine cleared.seq fun _ => steady_forM _ fun i => ?_
    exact (steady_perform (.unclaim i)).attempt.seq fun _ => (steady_perform (.attach i)).attempt
  · intro holder other same
    simp only [same]

end ModemLink.Link
