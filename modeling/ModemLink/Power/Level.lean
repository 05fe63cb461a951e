/-!
# Power levels

Device levels from fully on to off, system levels from working to shut down, each ordered by depth.
-/

namespace ModemLink

inductive DevicePower where
  | unspecified
  | d0
  | d1
  | d2
  | d3
  deriving DecidableEq, Repr

namespace DevicePower

def name : DevicePower → String
  | unspecified => "Unspecified"
  | d0 => "D0"
  | d1 => "D1"
  | d2 => "D2"
  | d3 => "D3"

def depth : DevicePower → Nat
  | unspecified => 0
  | d0 => 1
  | d1 => 2
  | d2 => 3
  | d3 => 4

/-- D1 or deeper. -/
def isLow (level : DevicePower) : Bool := d1.depth ≤ level.depth

end DevicePower

inductive SystemPower where
  | unspecified
  | working
  | sleeping1
  | sleeping2
  | sleeping3
  | hibernate
  | shutdown
  deriving DecidableEq, Repr

namespace SystemPower

def name : SystemPower → String
  | unspecified => "Unspecified"
  | working => "Working"
  | sleeping1 => "Sleeping1"
  | sleeping2 => "Sleeping2"
  | sleeping3 => "Sleeping3"
  | hibernate => "Hibernate"
  | shutdown => "Shutdown"

def depth : SystemPower → Nat
  | unspecified => 0
  | working => 1
  | sleeping1 => 2
  | sleeping2 => 3
  | sleeping3 => 4
  | hibernate => 5
  | shutdown => 6

/-- Working, or not yet reported. -/
def isAwake (level : SystemPower) : Bool := level.depth ≤ working.depth

/-- S3 or deeper, where the device loses power. -/
def isDeepSleep (level : SystemPower) : Bool := sleeping3.depth ≤ level.depth

end SystemPower

end ModemLink
