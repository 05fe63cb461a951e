import ModemLink.Error

/-!
# Failures at the console

A failure and the causes behind it, the outermost first.
-/

namespace ModemLink

structure Failure where
  message : String
  causes : List String := []
  deriving DecidableEq, Repr

namespace Failure

/-- What was being done when the failure came. -/
def within (context : String) (failure : Failure) : Failure :=
  { message := context, causes := failure.message :: failure.causes }

/-- A transport failure names its cause once more. -/
def ofClient : ClientError → Failure
  | .usb cause => { message := (ClientError.usb cause).message, causes := [cause.message] }
  | e => { message := e.message }

def line (failure : Failure) : String := ": ".intercalate (failure.message :: failure.causes)

/-- The lines of a cause after a mark, each further one as far in as the first. -/
def causeText (mark cause : String) : List String :=
  match cause.splitOn "\n" with
  | [] => [mark]
  | line :: rest => (mark ++ line) :: rest.map (Text.padLeft ' ' mark.length "" ++ ·)

/-- A single cause stands for itself; several are numbered. -/
def causeLines : List String → List String
  | [] => []
  | [cause] => "" :: "Caused by:" :: causeText "    " cause
  | causes =>
      "" :: "Caused by:" :: (causes.mapIdx fun i cause => causeText s!"    {i}: " cause).flatten

def text (failure : Failure) : String :=
  String.join ((("Error: " ++ failure.message) :: causeLines failure.causes).map (· ++ "\n"))

end Failure

end ModemLink
