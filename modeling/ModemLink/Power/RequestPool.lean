import ModemLink.Error
import ModemLink.Power.Level

/-!
# Self-originated power requests

A fixed arena of request records. A slot is either free or holds a pending request; a request that
comes back is matched with the oldest pending record of its level.
-/

namespace ModemLink

structure PowerSlot where
  target : DevicePower := .unspecified
  live : Bool := false
  deriving DecidableEq, Repr

/-- Names the slot that a request was recorded in. -/
structure PowerRequestHandle where
  slot : Nat
  deriving DecidableEq, Repr

structure RequestPool where
  slots : Array PowerSlot
  /-- The next slot to be taken first. -/
  free : List Nat
  /-- The oldest request first. -/
  pending : List Nat
  deriving DecidableEq, Repr

namespace RequestPool

def ofCapacity (capacity : Nat) : RequestPool where
  slots := Array.replicate capacity {}
  free := List.range capacity
  pending := []

def capacity (pool : RequestPool) : Nat := pool.slots.size

def slot (pool : RequestPool) (index : Nat) : PowerSlot := pool.slots.getD index {}

/-- Records a request for `target`. -/
def push (pool : RequestPool) (target : DevicePower) :
    Except DriverError (PowerRequestHandle × RequestPool) :=
  match pool.free with
  | [] => .error .powerPoolExhausted
  | index :: free =>
      .ok (⟨index⟩,
        { slots := pool.slots.setIfInBounds index { target, live := true }
          free
          pending := pool.pending ++ [index] })

def release (pool : RequestPool) (index : Nat) : RequestPool where
  slots := pool.slots.setIfInBounds index { pool.slot index with live := false }
  free := index :: pool.free
  pending := pool.pending.erase index

def holds (pool : RequestPool) (target : DevicePower) (index : Nat) : Bool :=
  (pool.slot index).live && (pool.slot index).target == target

/-- Releases the oldest pending record of `target`; was there one? -/
def matchAndRelease (pool : RequestPool) (target : DevicePower) : Bool × RequestPool :=
  match pool.pending.find? (pool.holds target) with
  | some index => (true, pool.release index)
  | none => (false, pool)

/-- Drops the record in the slot of `handle`; was it pending? -/
def cancel (pool : RequestPool) (handle : PowerRequestHandle) : Bool × RequestPool :=
  if handle.slot ∈ pool.pending then (true, pool.release handle.slot) else (false, pool)

end RequestPool

inductive PowerRequest where
  | queryDevice (level : DevicePower)
  | setDevice (level : DevicePower)
  | querySystem (level : SystemPower)
  | setSystem (level : SystemPower)
  deriving DecidableEq, Repr

/-- What becomes of a power request on its way to the layer above. -/
inductive PowerDisposition where
  /-- No adapter owns the device. -/
  | notOurs
  /-- The driver issued the request itself. -/
  | selfOriginated
  | forward
  deriving DecidableEq, Repr

/-- A set-device request that matches a pending record consumes it. -/
def RequestPool.filter (pool : RequestPool) : PowerRequest → PowerDisposition × RequestPool
  | .setDevice level =>
      match pool.matchAndRelease level with
      | (true, pool) => (.selfOriginated, pool)
      | (false, pool) => (.forward, pool)
  | _ => (.forward, pool)

end ModemLink
