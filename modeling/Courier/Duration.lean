/-! # Lengths of time

A length of time is a count of nanoseconds. Its text uses the largest of the units `s`, `ms`, `µs`
and `ns` in which it is at least one, with the fraction that is left and no trailing zeros.
-/

namespace Courier

/-- A length of time. -/
structure Duration where
  nanos : Nat
  deriving DecidableEq, Repr, Inhabited

namespace Duration

/-- A whole number of seconds. -/
def ofSeconds (seconds : Nat) : Duration := ⟨seconds * 1000000000⟩

/-- A whole number of milliseconds. -/
def ofMillis (millis : Nat) : Duration := ⟨millis * 1000000⟩

/-- The whole seconds of a length of time. -/
def seconds (d : Duration) : Nat := d.nanos / 1000000000

/-- What is left beside the whole seconds, in nanoseconds. -/
def subsecond (d : Duration) : Nat := d.nanos % 1000000000

/-- A count of units with a decimal fraction of so many places, without trailing zeros. -/
def showFraction (places whole rest : Nat) (unit : String) : String :=
  if rest = 0 then Nat.repr whole ++ unit
  else
    let digits := (Nat.repr (Nat.pow 10 places + rest)).toList.drop 1
    let kept := (digits.reverse.dropWhile (· = '0')).reverse
    Nat.repr whole ++ "." ++ String.ofList kept ++ unit

/-- The text of a length of time. -/
def describe (d : Duration) : String :=
  if 1000000000 ≤ d.nanos then showFraction 9 d.seconds d.subsecond "s"
  else if 1000000 ≤ d.nanos then showFraction 6 (d.nanos / 1000000) (d.nanos % 1000000) "ms"
  else if 1000 ≤ d.nanos then showFraction 3 (d.nanos / 1000) (d.nanos % 1000) "µs"
  else Nat.repr d.nanos ++ "ns"

end Duration

end Courier
