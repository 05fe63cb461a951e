import ModemLink.Store

/-!
# Runs of a store

What is asked of a store between two starts of the driver, each of which opens the store anew. A
store in memory starts empty then.
-/

namespace ModemLink

inductive StoreRequest where
  | get (key : StoreKey)
  | set (key : StoreKey) (value : StoreValue)
  | increment (key : StoreKey)
  | reopen
  deriving DecidableEq, Repr

inductive StoreAnswer where
  | found (value : Option StoreValue)
  | done
  | counted (count : UInt32)
  deriving DecidableEq, Repr

namespace Store

variable [TableCodec]

/-- A store that cannot be opened anew stays as it is. -/
def reopen (store : Store) : Except DriverError Unit × Store :=
  match store.medium with
  | .memory => (.ok (), {})
  | .file disk =>
      match Store.open disk with
      | .ok store => (.ok (), store)
      | .error e => (.error e, store)
  | .refusing _ => (.ok (), store)

def answer (store : Store) : StoreRequest → Except DriverError StoreAnswer × Store
  | .get key => ((store.get key).map .found, store)
  | .set key value =>
      let (result, store) := store.set key value
      (result.map fun _ => .done, store)
  | .increment key =>
      let (result, store) := store.increment key
      (result.map .counted, store)
  | .reopen =>
      let (result, store) := store.reopen
      (result.map fun _ => .done, store)

def answers (store : Store) : List StoreRequest → List (Except DriverError StoreAnswer) × Store
  | [] => ([], store)
  | request :: requests =>
      let (result, store) := store.answer request
      let (results, store) := store.answers requests
      (result :: results, store)

end Store

end ModemLink
