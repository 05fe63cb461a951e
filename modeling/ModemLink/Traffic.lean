import ModemLink.Bytes

/-!
# Traffic

The queues between a device's service loops and the statistics of what went through them.
-/

namespace ModemLink

/-- How many transfers there were of each size. The counters here and in `TransferStats` have 64
bits in the program, and whether one that runs over wraps or panics is up to the build. They are
natural numbers: no device transfers 2⁶⁴ octets between two starts, each of which sets them to zero,
and nothing but the status report reads them. -/
structure SizeHistogram where
  under10k : Nat := 0
  from10kTo20k : Nat := 0
  from20kTo30k : Nat := 0
  over30k : Nat := 0
  deriving DecidableEq, Repr

namespace SizeHistogram

def record (h : SizeHistogram) (size : Nat) : SizeHistogram :=
  if size < 10 * 1024 then { h with under10k := h.under10k + 1 }
  else if size < 20 * 1024 then { h with from10kTo20k := h.from10kTo20k + 1 }
  else if size < 30 * 1024 then { h with from20kTo30k := h.from20kTo30k + 1 }
  else { h with over30k := h.over30k + 1 }

def total (h : SizeHistogram) : Nat := h.under10k + h.from10kTo20k + h.from20kTo30k + h.over30k

theorem total_record (h : SizeHistogram) (size : Nat) : (h.record size).total = h.total + 1 := by
  unfold record total
  split
  · simp only; omega
  split
  · simp only; omega
  split <;> simp only <;> omega

end SizeHistogram

structure TransferStats where
  rx : SizeHistogram := {}
  tx : SizeHistogram := {}
  rxBytes : Nat := 0
  txBytes : Nat := 0
  droppedFrames : Nat := 0
  deriving DecidableEq, Repr

namespace TransferStats

def recordRx (s : TransferStats) (size : Nat) : TransferStats :=
  { s with rx := s.rx.record size, rxBytes := s.rxBytes + size }

def recordTx (s : TransferStats) (size : Nat) : TransferStats :=
  { s with tx := s.tx.record size, txBytes := s.txBytes + size }

def recordDrop (s : TransferStats) : TransferStats :=
  { s with droppedFrames := s.droppedFrames + 1 }

end TransferStats

/-- The queues of one device, the oldest entry first. -/
structure Queues where
  /-- Raw bulk-in buffers. -/
  read : List Bytes := []
  /-- Data frames to be sent. -/
  write : List Bytes := []
  /-- Control frames, sent ahead of data. -/
  control : List Bytes := []
  /-- The one unread interrupt notification. -/
  notification : Option Bytes := none
  deriving DecidableEq, Repr

namespace Queues

def pushRead (q : Queues) (buffer : Bytes) : Queues := { q with read := q.read ++ [buffer] }

def pushWrite (q : Queues) (frame : Bytes) : Queues := { q with write := q.write ++ [frame] }

def pushControl (q : Queues) (frame : Bytes) : Queues := { q with control := q.control ++ [frame] }

def popRead (q : Queues) : Option Bytes × Queues := (q.read.head?, { q with read := q.read.tail })

def popWrite (q : Queues) : Option Bytes × Queues :=
  (q.write.head?, { q with write := q.write.tail })

def popControl (q : Queues) : Option Bytes × Queues :=
  (q.control.head?, { q with control := q.control.tail })

/-- The next frame to send: control before data, and no data while paused. -/
def popFrame (q : Queues) (paused : Bool) : Option Bytes × Queues :=
  match q.control with
  | _ :: _ => q.popControl
  | [] => if paused then (none, q) else q.popWrite

def writeLength (q : Queues) : Nat := q.write.length + q.control.length

def flush (q : Queues) : Queues := { q with write := [], control := [] }

/-- Drops everything but the notification. -/
def purge (q : Queues) : Queues := { q.flush with read := [] }

end Queues

end ModemLink
