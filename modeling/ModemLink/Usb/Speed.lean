/-!
# Bus speeds
-/

namespace ModemLink

inductive Speed where
  | low
  | full
  | high
  | super
  | superPlus
  deriving DecidableEq, Repr

namespace Speed

def name : Speed → String
  | low => "Low"
  | full => "Full"
  | high => "High"
  | super => "Super"
  | superPlus => "SuperPlus"

/-- SuperSpeed or faster. -/
def isSuper : Speed → Bool
  | super | superPlus => true
  | _ => false

end Speed

end ModemLink
