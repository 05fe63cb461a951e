import ModemLink.Proofs.Session.PowerLoss
import ModemLink.Proofs.Session.Tenancy

/-!
# Closing

A client that leaves is gone for good: whatever fails on the way, the device is started without a
client, its queues are empty, and it may be suspended again as the options say.
-/

namespace ModemLink

open Act

variable {η : Type}

namespace Session

/-! ## What a client leaves behind -/

variable [Host η] {session after : Session η}

/-- The end of a close: the device is free for the next client, or to be suspended. -/
def release : Act η Unit := do
  Act.onQueues fun q => { q.purge with notification := none }
  Act.onDevice fun d => { d with txPaused := false }
  Act.setInterfaceIdle true
  restoreSuspendAllowed
  armIdleTimer

end Session

end ModemLink
