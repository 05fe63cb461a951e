import ModemLink.Bytes

/-!
# Time limits

A wait with a limit, and lengths of time as text.
-/

namespace ModemLink

namespace Duration

/-- The digits after a point, without the zeros at the end. -/
def fraction (width n : Nat) : String :=
  let digits := (Text.padLeft '0' width (toString n)).toList.reverse.dropWhile (· == '0')
  if digits.isEmpty then "" else "." ++ String.ofList digits.reverse

/-- Nanoseconds in the largest unit of which there is at least one. -/
def text (nanoseconds : Nat) : String :=
  let n := nanoseconds
  if 1000000000 ≤ n then s!"{n / 1000000000}" ++ fraction 9 (n % 1000000000) ++ "s"
  else if 1000000 ≤ n then s!"{n / 1000000}" ++ fraction 6 (n % 1000000) ++ "ms"
  else if 1000 ≤ n then s!"{n / 1000}" ++ fraction 3 (n % 1000) ++ "µs"
  else s!"{n}ns"

end Duration

structure TimeoutError where
  microseconds : Nat
  deriving DecidableEq, Repr

def TimeoutError.message (e : TimeoutError) : String :=
  "Test timed out after " ++ Duration.text (1000 * e.microseconds)

/-- Waits for a value that may never come. -/
def withTimeout {α : Type} (microseconds : Nat) (value : Option α) : Except TimeoutError α :=
  match value with
  | some value => .ok value
  | none => .error ⟨microseconds⟩

end ModemLink
