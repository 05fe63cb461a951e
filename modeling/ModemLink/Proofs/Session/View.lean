import ModemLink.Proofs.Session.Execution
import ModemLink.Session.Operation

/-!
# Views of a session

A view keeps of a session what a property speaks of. `act.Takes view v post` says what holds after
`act` from any session that looks like `v`, whatever the host answers. An action that cannot fail
and always ends at `w` then `Brings` `v` to `w`. One that changes nothing in the view `Spares` it,
and `Passes` if it cannot fail either.
-/

namespace ModemLink.Act

variable {η α β γ : Type}

def Takes (act : Act η α) (view : Session η → γ) (v : γ)
    (post : Except DriverError α → γ → Prop) : Prop :=
  ∀ session : Session η, view session = v →
    post (act.exec session).1 (view (act.exec session).2)

def Brings (act : Act η α) (view : Session η → γ) (v w : γ) : Prop :=
  ∀ session : Session η, view session = v →
    ∃ a after, act.exec session = (.ok a, after) ∧ view after = w

def Spares (act : Act η α) (view : Session η → γ) : Prop :=
  ∀ session, view (act.exec session).2 = view session

def Passes (act : Act η α) (view : Session η → γ) : Prop :=
  ∀ session, ∃ a after, act.exec session = (.ok a, after) ∧ view after = view session

variable {view : Session η → γ} {v w x : γ} {act : Act η α} {next : α → Act η β}
  {post : Except DriverError α → γ → Prop} {later : Except DriverError β → γ → Prop}

/-! ## Sequencing -/

theorem takes_pure {a : α} (holds : post (.ok a) v) : (pure a : Act η α).Takes view v post := by
  rintro session rfl
  exact holds

theorem takes_throw {e : DriverError} (holds : post (.error e) v) :
    (throw e : Act η α).Takes view v post := by
  rintro session rfl
  exact holds

theorem Takes.imp {weaker : Except DriverError α → γ → Prop} (takes : act.Takes view v post)
    (implies : ∀ result w, post result w → weaker result w) : act.Takes view v weaker :=
  fun session known => implies _ _ (takes session known)

theorem Takes.andThen (first : act.Takes view v post)
    (rest : ∀ a w, post (.ok a) w → (next a).Takes view w later)
    (failed : ∀ e w, post (.error e) w → later (.error e) w) :
    (act >>= next).Takes view v later := by
  intro session known
  have reached := first session known
  rw [exec_bind]
  revert reached
  cases act.exec session with
  | mk result after =>
      cases result with
      | ok a => exact fun reached => rest a _ reached after rfl
      | error e => exact failed e _

/-- What must hold after the first of two actions. -/
abbrev Onward (next : α → Act η β) (view : Session η → γ)
    (later : Except DriverError β → γ → Prop) : Except DriverError α → γ → Prop
  | .ok a, w => (next a).Takes view w later
  | .error e, w => later (.error e) w

theorem Takes.bind (first : act.Takes view v (Onward next view later)) :
    (act >>= next).Takes view v later :=
  first.andThen (fun _ _ => id) fun _ _ => id

theorem Takes.tryCatch {handler : DriverError → Act η α} {last : Except DriverError α → γ → Prop}
    (tried : act.Takes view v post) (passed : ∀ a w, post (.ok a) w → last (.ok a) w)
    (handled : ∀ e w, post (.error e) w → (handler e).Takes view w last) :
    (tryCatch act handler).Takes view v last := by
  intro session known
  have reached := tried session known
  rw [exec_tryCatch]
  revert reached
  cases act.exec session with
  | mk result after =>
      cases result with
      | ok a => exact passed a _
      | error e => exact fun reached => handled e _ reached after rfl

theorem Takes.discard {last : Except DriverError Unit → γ → Prop} (takes : act.Takes view v post)
    (passed : ∀ a w, post (.ok a) w → last (.ok ()) w)
    (failed : ∀ e w, post (.error e) w → last (.error e) w) :
    (discard act).Takes view v last :=
  takes.andThen (fun a w reached => takes_pure (passed a w reached)) failed

theorem Takes.attempt {last : Except DriverError Unit → γ → Prop} (takes : act.Takes view v post)
    (reached : ∀ result w, post result w → last (.ok ()) w) : (attempt act).Takes view v last := by
  have discarded : (Functor.discard act).Takes view v fun _ w => last (.ok ()) w :=
    takes.discard (fun a => reached (.ok a)) fun e => reached (.error e)
  exact discarded.tryCatch (fun _ _ => id) fun _ _ => takes_pure

/-- A branch that goes on as the other one does once it is through. -/
theorem takes_either {p : Prop} [Decidable p] {first rest : Act η α}
    (goesOn : rest.Takes view v post) (through : rest.Takes view v post → first.Takes view v post) :
    (if p then first else rest).Takes view v post := by
  split
  · exact through goesOn
  · exact goesOn

theorem takes_get {next : Session η → Act η β}
    (rest : ∀ session : Session η, view session = v → (next session).Takes view v later) :
    (get >>= next).Takes view v later := by
  intro session known
  exact rest session known session known

theorem takes_device {next : Device → Act η β}
    (rest : ∀ session : Session η, view session = v → (next session.device).Takes view v later) :
    (device >>= next).Takes view v later := by
  intro session known
  exact rest session known session known

/-! ## Actions that cannot fail -/

theorem Brings.takes (brings : act.Brings view v w) (holds : ∀ a, post (.ok a) w) :
    act.Takes view v post := by
  intro session known
  obtain ⟨a, after, run, rfl⟩ := brings session known
  rw [run]
  exact holds a

theorem Brings.bind (brings : act.Brings view v w)
    (rest : ∀ a, (next a).Takes view w later) : (act >>= next).Takes view v later := by
  have reached : act.Takes view v fun result u => (∃ a, result = .ok a) ∧ u = w :=
    brings.takes fun a => ⟨⟨a, rfl⟩, rfl⟩
  refine reached.andThen (fun a _ same => same.2 ▸ rest a) ?_
  rintro e _ ⟨⟨_, failed⟩, -⟩
  cases failed

theorem Brings.seq (brings : act.Brings view v w) (rest : ∀ a, (next a).Brings view w x) :
    (act >>= next).Brings view v x := by
  intro session known
  obtain ⟨a, middle, run, reached⟩ := brings session known
  obtain ⟨b, after, later, ended⟩ := rest a middle reached
  exact ⟨b, after, by rw [exec_bind_ok run, later], ended⟩

theorem Takes.attempt_brings (takes : act.Takes view v fun _ u => u = w) :
    (Act.attempt act).Brings view v w := by
  intro session known
  have reached : (Act.attempt act).Takes view v fun result u => (∃ a, result = .ok a) ∧ u = w :=
    takes.attempt fun _ _ same => ⟨⟨(), rfl⟩, same⟩
  obtain ⟨⟨a, done⟩, same⟩ := reached session known
  exact ⟨a, _, Prod.ext done rfl, same⟩

theorem brings_device {next : Device → Act η β}
    (rest : ∀ session : Session η, view session = v → (next session.device).Brings view v w) :
    (device >>= next).Brings view v w := by
  intro session known
  exact rest session known session known

/-! ## Actions that change nothing in view -/

theorem Passes.brings (passes : act.Passes view) : act.Brings view v v := by
  rintro session rfl
  exact passes session

theorem Passes.spares (passes : act.Passes view) : act.Spares view := by
  intro session
  obtain ⟨a, after, run, same⟩ := passes session
  rw [run]
  exact same

theorem Spares.takes (spares : act.Spares view) (holds : ∀ result, post result v) :
    act.Takes view v post := by
  rintro session rfl
  rw [spares session]
  exact holds _

theorem Passes.takes (passes : act.Passes view) (holds : ∀ a, post (.ok a) v) :
    act.Takes view v post :=
  passes.brings.takes holds

theorem Spares.bind (spares : act.Spares view) (rest : ∀ a, (next a).Takes view v later)
    (failed : ∀ e, later (.error e) v) : (act >>= next).Takes view v later := by
  have kept : act.Takes view v fun _ w => w = v := spares.takes fun _ => rfl
  exact kept.andThen (fun a _ same => same ▸ rest a) fun e _ same => same ▸ failed e

theorem Passes.bind (passes : act.Passes view) (rest : ∀ a, (next a).Takes view v later) :
    (act >>= next).Takes view v later :=
  passes.brings.bind rest

theorem spares_iff_takes : act.Spares view ↔ ∀ v, act.Takes view v fun _ w => w = v :=
  ⟨fun spares _ => spares.takes fun _ => rfl, fun takes session => takes _ session rfl⟩

theorem spares_pure (a : α) : (pure a : Act η α).Spares view := fun _ => rfl

theorem spares_throw (e : DriverError) : (throw e : Act η α).Spares view := fun _ => rfl

theorem Spares.seq (spares : act.Spares view) (rest : ∀ a, (next a).Spares view) :
    (act >>= next).Spares view :=
  spares_iff_takes.mpr fun v =>
    spares.bind (fun a => spares_iff_takes.mp (rest a) v) fun _ => rfl

/-- A branch that goes on as the other one does once it is through. -/
theorem spares_either {p : Prop} [Decidable p] {first rest : Act η α} (goesOn : rest.Spares view)
    (through : rest.Spares view → first.Spares view) : (if p then first else rest).Spares view := by
  split
  · exact through goesOn
  · exact goesOn

theorem spares_among {p q : Prop} [Decidable p] [Decidable q] {first second rest : Act η α}
    (goesOn : rest.Spares view) (first' : rest.Spares view → first.Spares view)
    (second' : rest.Spares view → second.Spares view) :
    (if p then first else if q then second else rest).Spares view := by
  split
  · exact first' goesOn
  · exact spares_either goesOn second'

theorem Spares.tryCatch {handler : DriverError → Act η α} (spares : act.Spares view)
    (handled : ∀ e, (handler e).Spares view) : (tryCatch act handler).Spares view := by
  refine spares_iff_takes.mpr fun v => (spares_iff_takes.mp spares v).tryCatch (fun _ _ => id) ?_
  rintro e _ rfl
  exact spares_iff_takes.mp (handled e) _

theorem passes_pure (a : α) : (pure a : Act η α).Passes view := fun session => ⟨a, session, rfl, rfl⟩

theorem passes_device : (device : Act η Device).Passes view := fun session => ⟨_, session, rfl, rfl⟩

theorem passes_get : (get : Act η (Session η)).Passes view := fun session => ⟨_, session, rfl, rfl⟩

theorem Passes.seq (passes : act.Passes view) (rest : ∀ a, (next a).Passes view) :
    (act >>= next).Passes view :=
  fun session => passes.brings.seq (fun a => (rest a).brings) session rfl

theorem Passes.discard (passes : act.Passes view) : (discard act).Passes view :=
  passes.seq fun _ => passes_pure ()

theorem Spares.attempt (spares : act.Spares view) : (attempt act).Passes view := by
  intro session
  have kept : act.Takes view (view session) fun _ w => w = view session :=
    spares.takes fun _ => rfl
  exact kept.attempt_brings session rfl

theorem view_bind (spares : ∀ a, (next a).Spares view) (session : Session η) :
    view ((act >>= next).exec session).2 = view (act.exec session).2 := by
  rw [exec_bind]
  cases act.exec session with
  | mk result after =>
      cases result with
      | ok a => exact spares a after
      | error e => rfl

theorem view_tryCatch {handler : DriverError → Act η α} (spares : ∀ e, (handler e).Spares view)
    (session : Session η) :
    view ((tryCatch act handler).exec session).2 = view (act.exec session).2 := by
  rw [exec_tryCatch]
  cases act.exec session with
  | mk result after =>
      cases result with
      | ok a => rfl
      | error e => exact spares e after

/-! ## Properties of the view that an action keeps -/

def Maintains (act : Act η α) (view : Session η → γ) (holds : γ → Prop) : Prop :=
  ∀ v, holds v → act.Takes view v fun _ w => holds w

variable {holds : γ → Prop}

theorem Spares.maintains (spares : act.Spares view) : act.Maintains view holds :=
  fun _ before => spares.takes fun _ => before

theorem spares_of_maintains (maintains : ∀ v, act.Maintains view (· = v)) : act.Spares view :=
  fun session => maintains _ _ rfl session rfl

theorem Maintains.seq (maintains : act.Maintains view holds)
    (rest : ∀ a, (next a).Maintains view holds) : (act >>= next).Maintains view holds :=
  fun v before => (maintains v before).andThen (fun a w => rest a w) fun _ _ => id

theorem Spares.before (spares : act.Spares view) (rest : ∀ a, (next a).Maintains view holds) :
    (act >>= next).Maintains view holds :=
  spares.maintains.seq rest

theorem maintains_either {p : Prop} [Decidable p] {first rest : Act η α}
    (goesOn : rest.Maintains view holds)
    (through : rest.Maintains view holds → first.Maintains view holds) :
    (if p then first else rest).Maintains view holds := by
  split
  · exact through goesOn
  · exact goesOn

theorem Maintains.tryCatch {handler : DriverError → Act η α} (maintains : act.Maintains view holds)
    (handled : ∀ e, (handler e).Maintains view holds) :
    (tryCatch act handler).Maintains view holds :=
  fun v before => (maintains v before).tryCatch (fun _ _ => id) fun e w => handled e w

theorem Maintains.attempt (maintains : act.Maintains view holds) :
    (attempt act).Maintains view holds :=
  fun v before => (maintains v before).attempt fun _ _ => id

end ModemLink.Act
