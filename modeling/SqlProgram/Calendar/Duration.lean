import SqlProgram.Calendar.Date

/-!
Lengths of time in nanoseconds, written in the largest unit that shows a digit before the point.
-/

namespace SqlProgram.Calendar

structure Duration where
  nanos : Nat
  deriving DecidableEq

namespace Duration

def ofMillis (millis : Nat) : Duration := ⟨millis * 1000000⟩

/-- A count of a unit, `10 ^ places` nanoseconds long, and its name. -/
def inUnit (duration : Duration) (places : Nat) (unit : String) : String :=
  let whole := duration.nanos / Nat.pow 10 places
  let digits := Date.padded places (duration.nanos % Nat.pow 10 places)
  let shown := (digits.reverse.dropWhile (· == '0')).reverse
  let point := if places = 0 || shown.isEmpty then [] else '.' :: shown
  String.ofList (Nat.toDigits 10 whole ++ point) ++ unit

/-- The decimals stop at the last that is not zero. -/
def text (duration : Duration) : String :=
  if 1000000000 ≤ duration.nanos then duration.inUnit 9 "s"
  else if 1000000 ≤ duration.nanos then duration.inUnit 6 "ms"
  else if 1000 ≤ duration.nanos then duration.inUnit 3 "µs"
  else duration.inUnit 0 "ns"

end Duration

end SqlProgram.Calendar
