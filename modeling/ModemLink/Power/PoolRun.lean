import ModemLink.Power.RequestPool

/-!
# Runs of the request pool

What is asked of a pool, in any order and with any handles.
-/

namespace ModemLink

inductive PoolCall where
  | push (target : DevicePower)
  | matchAndRelease (target : DevicePower)
  | cancel (handle : PowerRequestHandle)
  deriving DecidableEq, Repr

inductive PoolAnswer where
  | recorded (result : Except DriverError PowerRequestHandle)
  /-- Was there such a record? -/
  | found (was : Bool)

/-- Nothing was done. -/
def PoolAnswer.isRefusal : PoolAnswer → Bool
  | .recorded (.error _) => true
  | .found false => true
  | _ => false

namespace RequestPool

def answer (pool : RequestPool) : PoolCall → PoolAnswer × RequestPool
  | .push target =>
      match pool.push target with
      | .ok (handle, pool) => (.recorded (.ok handle), pool)
      | .error e => (.recorded (.error e), pool)
  | .matchAndRelease target =>
      let (was, pool) := pool.matchAndRelease target
      (.found was, pool)
  | .cancel handle =>
      let (was, pool) := pool.cancel handle
      (.found was, pool)

def through (pool : RequestPool) (calls : List PoolCall) : RequestPool :=
  calls.foldl (fun pool call => (pool.answer call).2) pool

end RequestPool

end ModemLink
