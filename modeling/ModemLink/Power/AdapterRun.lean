import ModemLink.Power.PoolRun
import ModemLink.Registry

/-!
# Runs of the adapter registry

The registry refers to device states that their owners share with it, and one state may be
registered under several keys. A registration is dropped by whoever holds it, at any time. A power
request looks its adapter up and is then served by the state it has found; other calls may come in
between.
-/

namespace ModemLink

/-- Names a shared device state. -/
structure StateRef where
  number : Nat
  deriving DecidableEq, Repr

/-- A registration that is held, and what it was made for. Its drop goes by the key alone. -/
structure Registration where
  key : AdapterKey
  state : StateRef
  deriving DecidableEq, Repr

/-- A power request that has found its adapter. -/
structure Inquiry where
  state : StateRef
  request : PowerRequest
  deriving DecidableEq, Repr

structure Adapters where
  registry : Registry StateRef := {}
  states : StateRef → Device
  held : List Registration := []
  inquiries : List Inquiry := []

inductive AdapterCall where
  | register (key : AdapterKey) (state : StateRef)
  /-- Drops one of the registrations that are held. -/
  | drop (index : Nat)
  | lookup (key : AdapterKey)
  /-- The first half of the filter: a power request looks its adapter up. -/
  | ask (key : AdapterKey) (request : PowerRequest)
  /-- The second half, for one of the requests that have found their adapter. -/
  | serve (index : Nat)
  /-- An owner uses the request pool of its state and changes the rest at will. -/
  | use (state : StateRef) (change : Device → Device) (calls : List PoolCall)

inductive AdapterAnswer where
  | registered (result : Except DriverError Unit)
  | found (state : Option StateRef)
  | disposed (disposition : PowerDisposition)
  | done

namespace Adapters

/-- New states, none of them registered. -/
def create (mux : StateRef → MuxConfig) (port : StateRef → String) (capacity : StateRef → Nat) :
    Adapters where
  states state := .create (mux state) (port state) (capacity state)

def setState (adapters : Adapters) (state : StateRef) (device : Device) : Adapters :=
  { adapters with states := fun other => if other = state then device else adapters.states other }

def setPool (adapters : Adapters) (state : StateRef) (pool : RequestPool) : Adapters :=
  adapters.setState state { adapters.states state with pool }

/-- The state that was found disposes of the request. -/
def serve (adapters : Adapters) (inquiry : Inquiry) : PowerDisposition × Adapters :=
  let (disposition, pool) := (adapters.states inquiry.state).pool.filter inquiry.request
  (disposition, adapters.setPool inquiry.state pool)

def answer (adapters : Adapters) : AdapterCall → AdapterAnswer × Adapters
  | .register key state =>
      match adapters.registry.register key state with
      | .ok registry =>
          (.registered (.ok ()),
            { adapters with registry, held := adapters.held ++ [⟨key, state⟩] })
      | .error e => (.registered (.error e), adapters)
  | .drop index =>
      match adapters.held[index]? with
      | some registration =>
          (.done, { adapters with
            registry := adapters.registry.drop registration.key
            held := adapters.held.eraseIdx index })
      | none => (.done, adapters)
  | .lookup key => (.found (adapters.registry.lookup key), adapters)
  | .ask key request =>
      match adapters.registry.lookup key with
      | some state =>
          (.done, { adapters with inquiries := adapters.inquiries ++ [⟨state, request⟩] })
      | none => (.disposed .notOurs, adapters)
  | .serve index =>
      match adapters.inquiries[index]? with
      | some inquiry =>
          let (disposition, served) := adapters.serve inquiry
          (.disposed disposition, { served with inquiries := adapters.inquiries.eraseIdx index })
      | none => (.done, adapters)
  | .use state change calls =>
      let device := adapters.states state
      (.done, adapters.setState state { change device with pool := device.pool.through calls })

def through (adapters : Adapters) (calls : List AdapterCall) : Adapters :=
  calls.foldl (fun adapters call => (adapters.answer call).2) adapters

/-- The registry with the states themselves in it. -/
def devices (adapters : Adapters) : Registry Device :=
  ⟨adapters.registry.entries.map fun (key, state) => (key, adapters.states state)⟩

end Adapters

end ModemLink
