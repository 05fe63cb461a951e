import ModemLink.Session.Basic

/-!
# Executing session actions

One equation for each primitive action, and sequencing by outcome: a failure keeps the session it
has reached.
-/

namespace ModemLink.Act

variable {η α β : Type}

theorem exec_of_result {act : Act η α} {session : Session η} {result : Except DriverError α}
    (ended : (act.exec session).1 = result) : act.exec session = (result, (act.exec session).2) :=
  Prod.ext ended rfl

@[simp] theorem exec_pure (a : α) (session : Session η) :
    (pure a : Act η α).exec session = (.ok a, session) := rfl

theorem exec_bind (act : Act η α) (next : α → Act η β) (session : Session η) :
    (act >>= next).exec session =
      match act.exec session with
      | (.ok a, after) => (next a).exec after
      | (.error e, after) => (.error e, after) := by
  simp only [exec, ExceptT.run_bind, StateT.run_bind]
  cases act.run.run session with
  | mk result after =>
      cases result with
      | ok a => rfl
      | error e => rfl

theorem exec_bind_ok {act : Act η α} {next : α → Act η β} {session after : Session η} {a : α}
    (ok : act.exec session = (.ok a, after)) :
    (act >>= next).exec session = (next a).exec after := by
  rw [exec_bind, ok]

theorem exec_bind_succeeded {act : Act η α} {next : α → Act η β} {session after : Session η} {b : β}
    (done : (act >>= next).exec session = (.ok b, after)) :
    ∃ a middle, act.exec session = (.ok a, middle) ∧ (next a).exec middle = (.ok b, after) := by
  rw [exec_bind] at done
  cases ran : act.exec session with
  | mk result middle =>
      rw [ran] at done
      cases result with
      | ok a => exact ⟨a, middle, rfl, done⟩
      | error e => cases done

theorem exec_bind_failed {act : Act η α} {next : α → Act η β} {session after : Session η}
    {e : DriverError} (failed : (act >>= next).exec session = (.error e, after)) :
    act.exec session = (.error e, after) ∨
      ∃ a middle, act.exec session = (.ok a, middle) ∧ (next a).exec middle = (.error e, after) := by
  rw [exec_bind] at failed
  cases ran : act.exec session with
  | mk result middle =>
      rw [ran] at failed
      cases result with
      | ok a => exact .inr ⟨a, middle, rfl, failed⟩
      | error e =>
          cases failed
          exact .inl rfl

@[simp] theorem exec_modify (f : Session η → Session η) (session : Session η) :
    (modify f : Act η Unit).exec session = (.ok (), f session) := rfl

@[simp] theorem exec_device (session : Session η) :
    (device : Act η Device).exec session = (.ok session.device, session) := rfl

@[simp] theorem exec_onDevice (f : Device → Device) (session : Session η) :
    (onDevice f).exec session = (.ok (), { session with device := f session.device }) := rfl

@[simp] theorem exec_notify (notification : Notification) (session : Session η) :
    (notify notification).exec session =
      (.ok (), { session with trace := session.trace.push (.notify notification) }) := rfl

@[simp] theorem exec_emit (event : Event) (session : Session η) :
    (emit event).exec session = (.ok (), { session with trace := session.trace.push event }) := rfl

@[simp] theorem exec_onHost (f : η → α × η) (session : Session η) :
    (onHost f).exec session =
      (.ok (f session.host).1, { session with host := (f session.host).2 }) := rfl

theorem exec_tryCatch (act : Act η α) (handler : DriverError → Act η α) (session : Session η) :
    (tryCatch act handler).exec session =
      match act.exec session with
      | (.ok a, after) => (.ok a, after)
      | (.error e, after) => (handler e).exec after := by
  change exec (ExceptT.tryCatch act handler) session = _
  simp only [ExceptT.tryCatch, exec, ExceptT.run_mk, StateT.run_bind]
  cases run : act.run.run session with
  | mk result after =>
      have reached : StateT.run act session = (result, after) := run
      rw [reached]
      cases result with
      | ok a => rfl
      | error e => rfl

end ModemLink.Act
