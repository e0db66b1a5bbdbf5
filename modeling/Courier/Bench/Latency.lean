import Courier.Number.Double

/-! # Latencies

The latencies of the exchanges of a run, in milliseconds, are summarised by their mean and by the
samples at four places of their ascending order. The mean is taken in that order too, so nothing in a
summary depends on the order in which the samples came.
-/

namespace Courier.Bench

/-- A summary of samples. -/
structure Latency where
  avg : Double
  /-- The upper one of two samples in the middle. -/
  median : Double
  /-- The least sample that no more than a twentieth of all samples exceeds. -/
  p95 : Double
  min : Double
  max : Double
  deriving DecidableEq, Repr

namespace Latency

/-- The summary of no samples. -/
def empty : Latency := ⟨.zero, .zero, .zero, .zero, .zero⟩

/-- Ascending order of samples. -/
def ascends (x y : Double) : Bool := x.orderKey ≤ y.orderKey

/-- The samples in ascending order. -/
def ordered (samples : List Double) : List Double := samples.mergeSort ascends

/-- The sum of samples, added from the left. -/
def sum (samples : List Double) : Double := samples.foldl (· + ·) .negativeZero

/-- Place of the median among so many samples. -/
def medianIndex (count : Nat) : Nat := count / 2

/-- Place of the ninety-fifth percentile among so many samples: nineteen twentieths of them, rounded
up, lie at or before it. -/
def p95Index (count : Nat) : Nat := (19 * count + 19) / 20 - 1

/-- The summary of samples. -/
def ofSamples (samples : List Double) : Latency :=
  match ordered samples with
  | [] => empty
  | least :: rest =>
    let all := least :: rest
    let count := all.length
    { avg := sum all / .ofCount count.toUInt64
      median := all.getD (medianIndex count) .zero
      p95 := all.getD (p95Index count) .zero
      min := least
      max := all.getD (count - 1) .zero }

end Latency

end Courier.Bench
